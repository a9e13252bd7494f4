/-
# CallTree.Proofs.Task.Nested — a lane one level further down.

A task that only waits for another task and passes its result on adds a process above it, and two
entries to what is due: the report that the other has ended, and its own last run. Everything else
happens as it does without it, in the same order (`Lane.Nested`, `Lane.Reaches.nested`). So when such a
lane is finished, so is the lane without the extra task, and both are answered alike
(`Lane.Reaches.finished_nested`). The states at their answers are the same after a success; after a
failure what is left below may have run on.
-/
import CallTree.Proofs.Task.Machine

namespace CallTree

variable {σ ε α : Type}

/-- What is due one level further down. -/
def Due.inner : Due → Due
  | .run path => .run (0 :: path)
  | .report parent slot => .report (0 :: parent) slot

namespace Lane

/-- A lane below a process that is at a stage, with the answer of that process. -/
def nest (l : Lane σ ε α) (outer : Stage σ ε α) (answer : Option (Answer σ ε α)) : Lane σ ε α :=
  { state := l.state, root := .node outer [l.root], answer }

section

variable (l : Lane σ ε α) (outer : Stage σ ε α) (answer : Option (Answer σ ε α))

theorem at?_nest (path : List Nat) :
    (l.nest outer answer).root.at? (0 :: path) = l.root.at? path := rfl

/-- What becomes due when a process stops: for the root of the inner lane a report besides. -/
theorem dueAfter_nest (path : List Nat) (first : Nat) (stop : Task.Stop σ ε α) :
    dueAfter (0 :: path) first stop = (dueAfter path first stop).map Due.inner ++
      if path = [] ∧ stop.outcome?.isSome then [.report [] 0] else [] := by
  cases stop with
  | ended outcome =>
    cases path with
    | nil => rfl
    | cons i path =>
      rw [if_neg fun h => List.cons_ne_nil _ _ h.1, List.append_nil]
      simp only [dueAfter, List.getLast?_cons_cons, List.dropLast_cons_cons]
      cases (i :: path).getLast? <;> rfl
  | paused rest => simp [dueAfter, Due.inner, Task.Stop.outcome?]
  | hung => simp [dueAfter, Task.Stop.outcome?]
  | waiting count child next => simp [dueAfter, Due.inner, Task.Stop.outcome?]

/-- Reports in a nested lane are those of the lane itself. -/
theorem tell_nest (parent : List Nat) (slot : Nat) :
    (l.nest outer answer).tell (0 :: parent) slot =
      ((l.tell parent slot).1.nest outer answer, (l.tell parent slot).2.map Due.inner) := by
  unfold tell
  rw [at?_nest]
  split
  · split
    · rfl
    · split
      · rfl
      · split <;> rfl
      · rfl
  · rfl

end

/-- A run of a process in a nested lane. -/
theorem settle_nest {task : Task σ ε α} {state : σ} {l : Lane σ ε α} (sound : l.Sound task state)
    (outer : Stage σ ε α) (answer : Option (Answer σ ε α)) {path : List Nat} {own : Task σ ε α}
    {children : List (Process σ ε α)}
    (here : l.root.at? path = some (.node (.ready own) children)) :
    ∃ news, (l.nest outer answer).handle (.run (0 :: path)) =
        ((l.handle (.run path)).1.nest outer answer,
          (l.handle (.run path)).2.map Due.inner ++ news) ∧
      (news = [] ∧ (l.handle (.run path)).1.answer = l.answer ∨
        news = [.report [] 0] ∧ l.answer = none ∧
          ∃ a, (l.handle (.run path)).1.answer = some a) := by
  have inside := (at?_nest l outer answer path).trans here
  have before : (l.nest outer answer).state = l.state := rfl
  simp only [handle, here, inside, settle, dueAfter_nest, before]
  refine ⟨_, rfl, ?_⟩
  by_cases root : path = []
  · -- A root that runs has not ended, so there is no answer yet.
    have unanswered : l.answer = none := by
      have verdict := sound.verdict
      rw [outcome?_root here root] at verdict
      exact Option.map_eq_none_iff.1 verdict
    simp only [root, true_and, if_true, unanswered]
    cases (own.advance l.state).1.outcome? with
    | none => exact .inl ⟨rfl, rfl⟩
    | some outcome => exact .inr ⟨rfl, _, rfl⟩
  · rw [if_neg fun h => root h.1, if_neg root]
    exact .inl ⟨rfl, rfl⟩

/-- **What is done in a nested lane** is what is done in the lane itself. When that ends the root, its
report is due besides. -/
theorem handle_nest {task : Task σ ε α} {state : σ} {l : Lane σ ε α} (sound : l.Sound task state)
    (outer : Stage σ ε α) (answer : Option (Answer σ ε α)) (due : Due) :
    ∃ news, (l.nest outer answer).handle due.inner =
        ((l.handle due).1.nest outer answer, (l.handle due).2.map Due.inner ++ news) ∧
      (news = [] ∧ (l.handle due).1.answer = l.answer ∨
        news = [.report [] 0] ∧ l.answer = none ∧ ∃ a, (l.handle due).1.answer = some a) := by
  cases due with
  | report parent slot =>
    refine ⟨[], ?_, .inl ⟨rfl, ?_⟩⟩
    · rw [List.append_nil]
      exact tell_nest l outer answer parent slot
    · have done := l.handled (.report parent slot)
      generalize l.handle (.report parent slot) = l' at done
      cases done <;> rfl
  | run path =>
    show ∃ news, (l.nest outer answer).handle (.run (0 :: path)) = _ ∧ _
    by_cases ready : ∃ own children, l.root.at? path = some (.node (.ready own) children)
    · obtain ⟨own, children, here⟩ := ready
      exact settle_nest sound outer answer here
    · have idle : l.handle (.run path) = (l, []) := by
        rw [handle]
        split
        · rename_i own children here
          exact absurd ⟨own, children, here⟩ ready
        · rfl
      have idle' : (l.nest outer answer).handle (.run (0 :: path)) = (l.nest outer answer, []) := by
        rw [handle, at?_nest]
        split
        · rename_i own children here
          exact absurd ⟨own, children, here⟩ ready
        · rfl
      rw [idle, idle']
      exact ⟨[], rfl, .inl ⟨rfl, rfl⟩⟩

/-! ## Nothing happens after a success -/

/-- In a lane that has succeeded nothing changes any more. -/
theorem Handled.of_succeeded {l : Lane σ ε α} {due : Due} {l' : Lane σ ε α × List Due}
    (h : l.Handled due l') (done : l.root.Succeeded) (tidy : l.root.Tidy) : l' = (l, []) := by
  have active {path : List Nat} {own : Stage σ ε α} {children : List (Process σ ε α)}
      (here : l.root.at? path = some (.node own children)) : ∃ a, own = .ended (.ok a) :=
    done.at? tidy here
  cases h with
  | run here => cases (active here).choose_spec
  | failed here _ _ => cases (active here).choose_spec
  | joined here _ _ _ => cases (active here).choose_spec
  | told here _ _ _ => cases (active here).choose_spec
  | idle _ => rfl
  | void _ => rfl

/-- A lane that has succeeded is in the state of its answer. -/
def Settled (x : Lane σ ε α × List Due) : Prop :=
  ∀ a v, x.1.answer = some a → a.outcome = .ok v → x.1.state = a.state

theorem Settled.turn {task : Task σ ε α} {state : σ} {x : Lane σ ε α × List Due}
    (kept : Kept task state x) (settled : Settled x) : Settled (turn x) := by
  intro a v answer ok
  rcases answered_turn answer with before | now
  · obtain ⟨l, queue⟩ := x
    cases queue with
    | nil => exact settled a v before ok
    | cons due rest =>
      have done : l.root.Succeeded := by
        have verdict := kept.sound.verdict
        rw [before, Option.map_some, ok] at verdict
        exact ⟨v, Stage.ended_of_outcome? verdict.symm⟩
      have same := (l.handled due).of_succeeded done kept.sound.tidy
      rw [Lane.turn, same]
      exact settled a v before ok
  · exact now.symm

/-- **A lane that succeeds has come to its end**: its state stays that of its answer. -/
theorem Reaches.settled {task : Task σ ε α} {state : σ} {y : Lane σ ε α × List Due}
    (run : Reaches (begun task state) y) : Settled y :=
  (run.keeps (P := fun x => Kept task state x ∧ Settled x)
    (fun _ h => ⟨h.1.turn, h.2.turn h.1⟩) ⟨kept_begun task state, nofun⟩).2

/-! ## One level further down -/

/-- **How the process above stands**, by the answer of the lane below it: with its own answer, and
what is due for it. -/
inductive Above (next : List α → Task σ ε α) :
    Option (Answer σ ε α) → Stage σ ε α → Option (Answer σ ε α) → List Due → Prop where
  | waits : Above next none (.waiting 0 [none] next) none []
  | told (a : Answer σ ε α) : Above next (some a) (.waiting 0 [none] next) none [.report [] 0]
  | woken (a : Answer σ ε α) : Above next (some a) (.ready (.done a.outcome)) none [.run []]
  | ended (a : Answer σ ε α) {s : σ} (same : ∀ v, a.outcome = .ok v → s = a.state) :
      Above next (some a) (.ended a.outcome) (some ⟨a.outcome, s⟩) []

/-- **A lane and the same lane one level further down**: what is due is the same, in the same order,
except for the process above. -/
inductive Nested (next : List α → Task σ ε α) (x : Lane σ ε α × List Due) :
    Lane σ ε α × List Due → Prop where
  | mk {outer : Stage σ ε α} {answer : Option (Answer σ ε α)} {news before after : List Due}
      (above : Above next x.1.answer outer answer news) (queue : x.2 = before ++ after) :
      Nested next x (x.1.nest outer answer,
        before.map Due.inner ++ news ++ after.map Due.inner)

section

variable {task : Task σ ε α} {state : σ} {next : List α → Task σ ε α}

/-- What has become due for the process above is due after everything else. -/
theorem Nested.whole (x : Lane σ ε α × List Due) {outer : Stage σ ε α}
    {answer : Option (Answer σ ε α)} {news : List Due} (above : Above next x.1.answer outer answer news) :
    Nested next x (x.1.nest outer answer, x.2.map Due.inner ++ news) := by
  have both := Nested.mk above (List.append_nil x.2).symm
  rw [List.map_nil, List.append_nil] at both
  exact both

/-- **Step below.** What is due first in the lane is done in both. -/
theorem Above.turn_below {l : Lane σ ε α} (sound : l.Sound task state) {outer : Stage σ ε α}
    {answer : Option (Answer σ ε α)} {news : List Due} (above : Above next l.answer outer answer news)
    (due : Due) (before after : List Due) :
    Nested next (turn (l, due :: before ++ after)) (turn (l.nest outer answer,
      due.inner :: (before.map Due.inner ++ news ++ after.map Due.inner))) := by
  -- Either nothing becomes due above, or the root has just ended, and its report is due after all else.
  obtain ⟨more, handled, ⟨rfl, same⟩ | ⟨rfl, unanswered, a, answered⟩⟩ :=
    handle_nest sound outer answer due
  · rw [turn, handled, List.append_nil, List.append_assoc _ _ (List.map _ _), ← List.map_append]
    exact .mk (same ▸ above) (List.append_assoc ..)
  · rw [unanswered] at above
    cases above with
    | waits =>
      have told : Above next (l.handle due).1.answer (.waiting 0 [none] next) none
          [.report [] 0] := answered ▸ .told a
      have both := Nested.whole ((l.handle due).1, before ++ after ++ (l.handle due).2) told
      have turned : turn (l, due :: before ++ after) =
          ((l.handle due).1, before ++ after ++ (l.handle due).2) := rfl
      rw [turned, turn, handled]
      simp only [List.map_append, List.append_nil, List.append_assoc] at both ⊢
      exact both

/-- **Step above.** What is due for the process above is done, and the lane stays as it is. -/
theorem Above.turn_above (passes : ∀ v, next [v] = .succeed v) {x : Lane σ ε α × List Due}
    (kept : Kept task state x) (settled : Settled x) {outer : Stage σ ε α}
    {answer : Option (Answer σ ε α)} {due : Due} (above : Above next x.1.answer outer answer [due]) :
    Nested next x (turn (x.1.nest outer answer, due :: x.2.map Due.inner)) := by
  obtain ⟨l, queue⟩ := x
  generalize given : l.answer = below at above
  have verdict := kept.sound.verdict
  cases above with
  | told a =>
    rw [given, Option.map_some] at verdict
    have ended := Stage.ended_of_outcome? verdict.symm
    -- The report makes the process above go on with the outcome of the lane.
    have wakes : (l.nest (.waiting 0 [none] next) none).handle (.report [] 0) =
        (l.nest (.ready (.done a.outcome)) none, [.run []]) := by
      rcases outcome : a.outcome with e | v
      all_goals simp [handle, tell, nest, ended, outcome, wake, put, Process.put, complete?, passes,
        Task.fail, Task.succeed]
    have woken : Above next l.answer (.ready (.done a.outcome)) none [.run []] := given ▸ .woken a
    rw [turn, wakes]
    exact .whole (l, queue) woken
  | woken a =>
    have runs : (l.nest (.ready (.done a.outcome)) none).handle (.run []) =
        (l.nest (.ended a.outcome) (some ⟨a.outcome, l.state⟩), []) := by
      simp [handle, nest, settle, put, Process.put, Task.advance, Task.Stop.stage,
        Task.Stop.started, Task.Stop.outcome?, dueAfter]
    have ends : Above next l.answer (.ended a.outcome) (some ⟨a.outcome, l.state⟩) [] :=
      given ▸ .ended a fun v => settled a v given
    rw [turn, runs]
    exact .whole (l, queue) ends

/-- **Step.** A turn of the nested lane is a turn of the lane, or none. -/
theorem Nested.turn (passes : ∀ v, next [v] = .succeed v) {x x' : Lane σ ε α × List Due}
    (kept : Kept task state x) (settled : Settled x) (nested : Nested next x x') :
    Nested next x (turn x') ∨ Nested next (turn x) (turn x') := by
  obtain ⟨l, queue⟩ := x
  cases nested with
  | @mk outer answer news before after above same =>
    simp only at same
    subst same
    -- What is due first decides which of the two goes on: something below, or the process above.
    cases before with
    | cons due before => exact .inr (above.turn_below kept.sound due before after)
    | nil =>
      cases news with
      | cons due news =>
        have alone : news = [] := by
          generalize l.answer = below at above
          cases above <;> rfl
        subst alone
        exact .inl (above.turn_above passes kept settled)
      | nil =>
        cases after with
        | nil => exact .inl (.whole (l, []) above)
        | cons due after =>
          right
          have both := above.turn_below kept.sound due after []
          rw [List.append_nil, List.append_nil, List.map_nil, List.append_nil] at both
          exact both

/-- **Run.** Whatever a nested lane comes to, the lane comes to. -/
theorem Reaches.nested (passes : ∀ v, next [v] = .succeed v) {y : Lane σ ε α × List Due}
    (run : Reaches (begun (.gatherAll [task] next) state) y) :
    y = begun (.gatherAll [task] next) state ∨
      ∃ x, Reaches (begun task state) x ∧ Nested next x y := by
  obtain ⟨n, rfl⟩ := run
  induction n with
  | zero => exact .inl rfl
  | succ n ih =>
    right
    rw [Function.iterate_succ_apply']
    rcases ih with first | ⟨x, reached, nested⟩
    · refine ⟨begun task state, .refl _, ?_⟩
      rw [first]
      exact .whole (begun task state) .waits
    · rcases nested.turn passes (reached.kept (kept_begun task state)) reached.settled with
        same | turned
      · exact ⟨x, reached, same⟩
      · exact ⟨_, reached.trans (.turn x), turned⟩

/-- **A finished nested lane**: the lane is finished too, and is answered with the same outcome, after
a success in the same state. -/
theorem Reaches.finished_nested (passes : ∀ v, next [v] = .succeed v) {y : Lane σ ε α × List Due}
    (run : Reaches (begun (.gatherAll [task] next) state) y) (finished : Finished y) :
    ∃ x, Reaches (begun task state) x ∧ Finished x ∧ y.1.state = x.1.state ∧
      (x.1.answer = none ∧ y.1.answer = none ∨
        ∃ a s, x.1.answer = some a ∧ y.1.answer = some ⟨a.outcome, s⟩ ∧
          ∀ v, a.outcome = .ok v → s = a.state) := by
  rcases run.nested passes with rfl | ⟨⟨l, queue⟩, reached, nested⟩
  · rcases finished with answered | quiet
    · cases answered
    · cases quiet
  · refine ⟨(l, queue), reached, ?_⟩
    cases nested with
    | @mk outer answer news before after above same =>
      replace above : Above next l.answer outer answer news := above
      cases given : l.answer with
      | none =>
        rw [given] at above
        cases above with
        | waits =>
          rcases finished with answered | quiet
          · cases answered
          · simp only [List.append_nil, List.append_eq_nil_iff, List.map_eq_nil_iff] at quiet
            rw [quiet.1, quiet.2] at same
            exact ⟨.inr same, rfl, .inl ⟨rfl, rfl⟩⟩
      | some a =>
        rw [given] at above
        cases above with
        | ended _ same => exact ⟨.inl (by simp [given]), rfl, .inr ⟨a, _, rfl, rfl, same⟩⟩
        | told _ | woken _ =>
          -- Something is still due for the process above, so the nested lane is not finished.
          rcases finished with answered | quiet
          · cases answered
          · simp at quiet

end

end Lane

end CallTree
