/-
# CallTree.Proofs.Task.Lane — every run of a lane is a run of its task.

What is done in a lane is one of six things (`Lane.Handled`). Each keeps the lane sound
(`Lane.Sound`): the state is the first state after some updates, and whatever may still come of the
root, with these updates first, may come of the task of the lane. So at every moment the task stands
as the lane shows it, and an answer of the lane is an outcome of its task, with the updates that led to
it.
-/
import CallTree.Task.Machine
import CallTree.Proofs.Task.Remainder

namespace CallTree

/-- The outcome of a stage at which a process has ended. -/
def Stage.outcome? {σ ε α : Type} : Stage σ ε α → Option (Except ε α)
  | .ended outcome => some outcome
  | .ready _ => none
  | .waiting _ _ _ => none
  | .hung => none

theorem Stage.ended_of_outcome? {σ ε α : Type} {stage : Stage σ ε α} {outcome : Except ε α}
    (h : stage.outcome? = some outcome) : stage = .ended outcome := by
  cases stage with
  | ended result =>
    cases h
    rfl
  | _ => cases h

namespace Lane

variable {σ ε α : Type}

/-! ## Results -/

/-- Nothing is missing from a complete list. -/
theorem eq_map_of_complete? {results : List (Option α)} {values : List α}
    (h : complete? results = some values) : results = values.map some := by
  induction results generalizing values with
  | nil =>
    cases h
    rfl
  | cons r rest ih =>
    cases r with
    | none => cases h
    | some a =>
      rw [complete?, Option.map_eq_some_iff] at h
      obtain ⟨others, hr, rfl⟩ := h
      rw [ih hr, List.map_cons]

/-- Something is missing from an incomplete list. -/
theorem none_mem_of_complete? {results : List (Option α)} (h : complete? results = none) :
    none ∈ results := by
  induction results with
  | nil => cases h
  | cons r rest ih =>
    cases r with
    | none => exact List.mem_cons_self
    | some a =>
      rw [complete?, Option.map_eq_none_iff] at h
      exact List.mem_cons_of_mem _ (ih h)

/-! ## What is done in a lane -/

/-- **What can be done** in a lane. -/
inductive Handled (l : Lane σ ε α) : Due → Lane σ ε α × List Due → Prop where
  /-- A ready process runs until it stops. -/
  | run {path : List Nat} {task : Task σ ε α} {children : List (Process σ ε α)}
      (here : l.root.at? path = some (.node (.ready task) children)) :
      Handled l (.run path) ({ l with state := (task.advance l.state).2 }.settle path
        children.length (task.advance l.state).1)
  /-- There is nothing to run any more. -/
  | idle {path : List Nat} (other : ∀ task, l.root.stage? path ≠ some (.ready task)) :
      Handled l (.run path) (l, [])
  /-- A waiting process is told of a failure. -/
  | failed {parent : List Nat} {first i : Nat} {results : List (Option α)}
      {next : List α → Task σ ε α} {children : List (Process σ ε α)} {c : Process σ ε α} {e : ε}
      (here : l.root.at? parent = some (.node (.waiting first results next) children))
      (child : children[first + i]? = some c) (ended : c.stage = .ended (.error e)) :
      Handled l (.report parent (first + i)) (l.wake parent (.fail e))
  /-- A waiting process has its last result. -/
  | joined {parent : List Nat} {first i : Nat} {results : List (Option α)}
      {next : List α → Task σ ε α} {children : List (Process σ ε α)} {c : Process σ ε α} {a : α}
      {values : List α}
      (here : l.root.at? parent = some (.node (.waiting first results next) children))
      (child : children[first + i]? = some c) (ended : c.stage = .ended (.ok a))
      (complete : complete? (results.set i (some a)) = some values) :
      Handled l (.report parent (first + i)) (l.wake parent (next values))
  /-- A waiting process has one more result. -/
  | told {parent : List Nat} {first i : Nat} {results : List (Option α)}
      {next : List α → Task σ ε α} {children : List (Process σ ε α)} {c : Process σ ε α} {a : α}
      (here : l.root.at? parent = some (.node (.waiting first results next) children))
      (child : children[first + i]? = some c) (ended : c.stage = .ended (.ok a))
      (missing : complete? (results.set i (some a)) = none) :
      Handled l (.report parent (first + i))
        (l.put parent (.waiting first (results.set i (some a)) next) [], [])
  /-- Nobody waits for the report. -/
  | void {parent : List Nat} {slot : Nat}
      (other : ∀ first results next, l.root.stage? parent = some (.waiting first results next) →
        first ≤ slot → ∀ outcome, l.root.stage? (parent ++ [slot]) ≠ some (.ended outcome)) :
      Handled l (.report parent slot) (l, [])

/-- What is done on a report. -/
theorem handled_tell (l : Lane σ ε α) (parent : List Nat) (slot : Nat) :
    Handled l (.report parent slot) (l.tell parent slot) := by
  unfold tell
  split
  · rename_i first results next children here
    have waits := Process.stage?_of_at? here
    split
    · rename_i early
      -- The child belongs to an earlier round, of which the process has all results.
      refine .void ?_
      intro first' results' next' same later
      rw [waits, Option.some.injEq] at same
      cases same
      omega
    · rename_i late
      obtain ⟨i, rfl⟩ := Nat.exists_eq_add_of_le (Nat.le_of_not_lt late)
      rw [Nat.add_sub_cancel_left]
      have place (stage : Option (Stage σ ε α))
          (h : children[first + i]?.map Process.stage = stage) :
          l.root.stage? (parent ++ [first + i]) = stage := by
        rw [Process.stage?_concat here, h]
      split
      · rename_i e ended
        obtain ⟨c, hc, stage⟩ := Option.map_eq_some_iff.1 ended
        exact .failed here hc stage
      · rename_i a ended
        obtain ⟨c, hc, stage⟩ := Option.map_eq_some_iff.1 ended
        split
        · rename_i values complete
          exact .joined here hc stage complete
        · rename_i missing
          exact .told here hc stage missing
      · rename_i notFailed notEnded
        -- There is no such child, or it has not ended: nothing to tell.
        refine .void ?_
        intro _ _ _ _ _ outcome same
        rw [place _ rfl] at same
        cases outcome with
        | ok a => exact notEnded a same
        | error e => exact notFailed e same
  · rename_i other
    refine .void ?_
    intro first results next same
    obtain ⟨⟨stage, children⟩, here, rfl⟩ := Option.map_eq_some_iff.1 same
    exact absurd here (other first results next children)

/-- **What is done in a lane is one of these.** -/
theorem handled (l : Lane σ ε α) (due : Due) : Handled l due (l.handle due) := by
  cases due with
  | run path =>
    rw [handle]
    split
    · rename_i task children here
      exact .run here
    · rename_i other
      refine .idle ?_
      intro task same
      obtain ⟨⟨stage, children⟩, here, rfl⟩ := Option.map_eq_some_iff.1 same
      exact absurd here (other task children)
  | report parent slot => exact handled_tell l parent slot

/-! ## Soundness -/

/-- **A sound lane** of a task and a first state. -/
structure Sound (task : Task σ ε α) (state : σ) (l : Lane σ ε α) : Prop where
  tidy : l.root.Tidy
  /-- The answer is there when the root has ended. -/
  verdict : l.answer.map Answer.outcome = l.root.stage.outcome?
  leads : ∃ updates, l.state = perform updates state ∧
    ∀ standing later, l.root.Stands standing later → task.Stands standing (updates ++ later)
  answered : ∀ a, l.answer = some a →
    ∃ updates, a.state = perform updates state ∧ task.Stands (.ended a.outcome) updates

theorem sound_fresh (task : Task σ ε α) (state : σ) : (fresh task state).Sound task state where
  tidy := Process.tidy_fresh task
  verdict := rfl
  leads := ⟨[], rfl, fun _ _ => Process.stands_of_fresh⟩
  answered := nofun

/-- What the root is at after a change. -/
theorem outcome?_put (own : Stage σ ε α) (started : List (Process σ ε α)) (path : List Nat)
    (p : Process σ ε α) :
    (p.put own started path).stage.outcome? =
      if path = [] then own.outcome? else p.stage.outcome? := by
  cases path with
  | nil =>
    cases p
    rfl
  | cons i path => rw [Process.stage_put_cons, if_neg (by simp)]

/-- A change of a process that has not ended leaves the verdict on the root alone, unless it ends
the root. -/
theorem outcome?_root {l : Lane σ ε α} {path : List Nat} {own : Stage σ ε α}
    {children : List (Process σ ε α)} (here : l.root.at? path = some (.node own children))
    (root : path = []) : l.root.stage.outcome? = own.outcome? := by
  subst root
  rw [Process.at?_nil, Option.some.injEq] at here
  rw [here]
  rfl

/-- A waiting process changes, and the state does not. -/
theorem Sound.put {task : Task σ ε α} {state : σ} {l : Lane σ ε α} (sound : l.Sound task state)
    {path : List Nat} {first : Nat} {results : List (Option α)} {next : List α → Task σ ε α}
    {children : List (Process σ ε α)} {own : Stage σ ε α}
    (here : l.root.at? path = some (.node (.waiting first results next) children))
    (goesOn : own.outcome? = none) (neat : own.Neat (children ++ []))
    (step : Process.Leads [] (.node (.waiting first results next) children)
      (.node own (children ++ []))) : (l.put path own []).Sound task state := by
  have active (a : α) : Stage.waiting first results next ≠ .ended (.ok a) := nofun
  obtain ⟨updates, same, leads⟩ := sound.leads
  have leads' := Process.leads_put active step sound.tidy here
  refine ⟨Process.tidy_put active neat nofun sound.tidy here, ?_, ⟨updates, same, ?_⟩,
    sound.answered⟩
  · rw [Lane.put, outcome?_put, sound.verdict]
    by_cases root : path = []
    · rw [if_pos root, goesOn, outcome?_root here root]
      rfl
    · rw [if_neg root]
  · exact fun standing later stands => leads standing later (leads' standing later stands)

/-- A ready process runs. -/
theorem Sound.settle {task own : Task σ ε α} {state : σ} {l : Lane σ ε α}
    (sound : l.Sound task state) {path : List Nat} {children : List (Process σ ε α)}
    (here : l.root.at? path = some (.node (.ready own) children)) :
    ({ l with state := (own.advance l.state).2 }.settle path children.length
      (own.advance l.state).1).1.Sound task state := by
  have active (a : α) : Stage.ready own ≠ .ended (.ok a) := nofun
  have neat := sound.tidy.neat here
  have new (c : Process σ ε α) (mem : c ∈ (own.advance l.state).1.started) : c.Tidy := by
    obtain ⟨task, rfl⟩ := Process.fresh_of_started mem
    exact Process.tidy_fresh task
  obtain ⟨updates, before, leads⟩ := sound.leads
  obtain ⟨more, after, step⟩ :=
    Process.leads_advance own l.state neat (sound.tidy.ofChildren here)
  have leads' := Process.leads_put active step sound.tidy here
  have now : (own.advance l.state).2 = perform (updates ++ more) state := by
    rw [after, before, perform_append]
  have goesOn (standing : Standing ε α) (later : List (σ → σ))
      (stands : (l.root.put ((own.advance l.state).1.stage children.length)
        (own.advance l.state).1.started path).Stands standing later) :
      task.Stands standing (updates ++ more ++ later) := by
    rw [List.append_assoc]
    exact leads _ _ (leads' _ _ stands)
  have stopped (stop : Task.Stop σ ε α) (first : Nat) :
      (stop.stage first).outcome? = stop.outcome? := by
    cases stop <;> rfl
  refine ⟨Process.tidy_put active (Process.neat_stop neat _) new sound.tidy here, ?_,
    ⟨_, now, goesOn⟩, ?_⟩
  · simp only [Lane.settle, Lane.put]
    rw [outcome?_put, stopped, ← sound.verdict]
    split
    · cases (own.advance l.state).1 <;> rfl
    · rfl
  · intro a ha
    simp only [Lane.settle, Lane.put] at ha
    split at ha
    · rename_i root
      -- The root itself has ended: nothing is left to come of it but its outcome.
      subst root
      obtain ⟨outcome, ended, rfl⟩ := Option.map_eq_some_iff.1 ha
      refine ⟨updates ++ more, now, ?_⟩
      have last := goesOn (.ended outcome) [] (Process.stands_of_ended (Stage.ended_of_outcome? ?_))
      · rw [List.append_nil] at last
        exact last
      · rw [outcome?_put, if_pos rfl, stopped, ended]
    · exact sound.answered a ha

/-- **Whatever is done in a sound lane keeps it sound.** -/
theorem Sound.handled {task : Task σ ε α} {state : σ} {l : Lane σ ε α}
    (sound : l.Sound task state) {due : Due} {l' : Lane σ ε α × List Due}
    (h : l.Handled due l') : l'.1.Sound task state := by
  have bound {parent : List Nat} {first i : Nat} {results : List (Option α)}
      {next : List α → Task σ ε α} {children : List (Process σ ε α)} {c : Process σ ε α}
      (here : l.root.at? parent = some (.node (.waiting first results next) children))
      (child : children[first + i]? = some c) : i < results.length := by
    have length := (sound.tidy.neat here).1
    have hi := (List.getElem?_eq_some_iff.1 child).1
    omega
  cases h with
  | run here => exact sound.settle here
  | idle _ => exact sound
  | failed here child ended =>
    exact sound.put here rfl (.inr ⟨_, rfl⟩) (Process.leads_failed (bound here child) child ended)
  | @joined parent first i results next children c a values here child ended complete =>
    have neat := sound.tidy.neat here
    have all := eq_map_of_complete? complete
    have length := Process.length_of_complete all
    have done := Process.succeeded_of_joined neat child ended all
    refine sound.put here rfl ?_ (Process.leads_joined length ?_ ?_)
    · rw [List.append_nil]
      exact .inl done
    · exact fun j v c' hv hc' => Process.ended_of_joined neat child ended all hv hc'
    · exact fun c mem => (done c mem).idle (sound.tidy.ofChildren here c mem)
  | told here child ended missing =>
    refine sound.put here rfl ?_ (Process.leads_told (List.length_set ..))
    rw [List.append_nil]
    exact Process.neat_told (sound.tidy.neat here) child ended
  | void _ => exact sound

/-- **An answer stays**, whatever is done in its lane. -/
theorem Sound.answer_handled {task : Task σ ε α} {state : σ} {l : Lane σ ε α}
    (sound : l.Sound task state) {due : Due} {l' : Lane σ ε α × List Due} (h : l.Handled due l')
    {a : Answer σ ε α} (answer : l.answer = some a) : l'.1.answer = some a := by
  cases h with
  | @run path own children here =>
    -- An answered root has ended, so it is not the process that runs.
    have notRoot : path ≠ [] := by
      intro root
      have verdict := sound.verdict
      rw [outcome?_root here root, answer] at verdict
      cases verdict
    simp only [Lane.settle, Lane.put, if_neg notRoot]
    exact answer
  | _ => exact answer

/-- An answer that was not there before is given with the state of the moment. -/
theorem Handled.answered {l : Lane σ ε α} {due : Due} {l' : Lane σ ε α × List Due}
    (h : l.Handled due l') {a : Answer σ ε α} (answer : l'.1.answer = some a) :
    l.answer = some a ∨ a.state = l'.1.state := by
  cases h with
  | @run path own children here =>
    simp only [Lane.settle, Lane.put] at answer ⊢
    split at answer
    · obtain ⟨outcome, -, rfl⟩ := Option.map_eq_some_iff.1 answer
      exact .inr rfl
    · exact .inl answer
  | _ => exact .inl answer

end Lane

end CallTree
