/-
# CallTree.Proofs.Task.Booking — nothing that is left to do is forgotten.

A process that is ready is due, and so is the report on a child that has ended while it was waited
for (`Process.Booked`). Whatever is done in a lane keeps its books (`Lane.Handled.booked`). So when
nothing is due any more, a lane has come to its end or something in it hangs
(`Lane.Sound.answered_or_stuck`).
-/
import CallTree.Proofs.Task.Lane

namespace CallTree

variable {σ ε α : Type}

/-- The process that a due entry is for. -/
def Due.place : Due → List Nat
  | .run path => path
  | .report parent _ => parent

/-! ## What is due -/

/-- What has to be due for a process at a place. -/
def Stage.Booked (root : Process σ ε α) (queue : List Due) (place : List Nat) :
    Stage σ ε α → Prop
  | .ready _ => .run place ∈ queue
  | .waiting first results _ =>
    none ∈ results ∧ ∀ i, results[i]? = some none → ∀ outcome,
      root.stage? (place ++ [first + i]) = some (.ended outcome) →
        .report place (first + i) ∈ queue
  | .ended _ => True
  | .hung => True

namespace Process

/-- What a fresh process is at. -/
theorem stage?_fresh {task : Task σ ε α} {place : List Nat} {stage : Stage σ ε α}
    (h : (fresh task).stage? place = some stage) : place = [] ∧ stage = .ready task := by
  cases place with
  | nil => exact ⟨rfl, (Option.some.inj h).symm⟩
  | cons i rest => cases h

/-- **Everything that has to be due is due.** -/
def Booked (root : Process σ ε α) (queue : List Due) : Prop :=
  ∀ place stage, root.stage? place = some stage → stage.Booked root queue place

theorem booked_fresh (task : Task σ ε α) : (fresh task).Booked [.run []] := by
  intro place stage found
  obtain ⟨rfl, rfl⟩ := stage?_fresh found
  exact List.mem_singleton.2 rfl

/-- What has ended after a change had ended before it, or is what was changed. -/
theorem ended_of_put {path place : List Nat} {p : Process σ ε α} {own own' : Stage σ ε α}
    {children started : List (Process σ ε α)} {outcome : Except ε α}
    (here : p.at? path = some (.node own children)) (new : ∀ c ∈ started, ∃ task, c = fresh task)
    (h : (p.put own' started path).stage? place = some (.ended outcome)) :
    place = path ∧ own' = .ended outcome ∨ p.stage? place = some (.ended outcome) := by
  rcases stage?_put here h with ⟨rfl, same⟩ | ⟨_, old⟩ | ⟨i, c, rest, hc, _, inside⟩
  · exact .inl ⟨rfl, same.symm⟩
  · exact .inr old
  · obtain ⟨task, rfl⟩ := new c (List.mem_of_getElem? hc)
    cases (stage?_fresh inside).2

/-- What was due for another process stays due, when the first of the queue is done. -/
theorem booked_elsewhere {root : Process σ ε α} {due : Due} {rest more : List Due}
    {own own' : Stage σ ε α} {children started : List (Process σ ε α)}
    (booked : root.Booked (due :: rest)) (here : root.at? due.place = some (.node own children))
    (new : ∀ c ∈ started, ∃ task, c = fresh task)
    (told : ∀ outcome parent slot, own' = .ended outcome → due.place = parent ++ [slot] →
      .report parent slot ∈ more)
    {place : List Nat} {stage : Stage σ ε α} (other : place ≠ due.place)
    (found : root.stage? place = some stage) :
    stage.Booked (root.put own' started due.place) (rest ++ more) place := by
  have stays {entry : Due} (at_ : entry.place = place) (mem : entry ∈ due :: rest) :
      entry ∈ rest ++ more := by
    rcases List.mem_cons.1 mem with rfl | later
    · exact absurd at_.symm other
    · exact List.mem_append_left _ later
  have before := booked place stage found
  cases stage with
  | ready task => exact stays rfl before
  | waiting first results next =>
    refine ⟨before.1, ?_⟩
    intro i missing outcome ended
    rcases ended_of_put here new ended with ⟨same, stopped⟩ | old
    · exact List.mem_append_right _ (told outcome place (first + i) stopped same.symm)
    · exact stays rfl (before.2 i missing outcome old)
  | ended _ => trivial
  | hung => trivial

/-- **The books after a change**: for the process that is changed, for what it starts, and for all
others. -/
theorem Booked.put {root : Process σ ε α} {due : Due} {rest more : List Due}
    {own own' : Stage σ ε α} {children started : List (Process σ ε α)}
    (booked : root.Booked (due :: rest)) (here : root.at? due.place = some (.node own children))
    (new : ∀ i c, started[i]? = some c → (∃ task, c = fresh task) ∧
      .run (due.place ++ [children.length + i]) ∈ more)
    (told : ∀ outcome parent slot, own' = .ended outcome → due.place = parent ++ [slot] →
      .report parent slot ∈ more)
    (changed : own'.Booked (root.put own' started due.place) (rest ++ more) due.place) :
    (root.put own' started due.place).Booked (rest ++ more) := by
  have fresh' (c : Process σ ε α) (mem : c ∈ started) : ∃ task, c = fresh task := by
    obtain ⟨i, hi⟩ := List.mem_iff_getElem?.1 mem
    exact (new i c hi).1
  intro place stage found
  rcases stage?_put here found with ⟨rfl, rfl⟩ | ⟨other, old⟩ | ⟨i, c, rest', hc, rfl, inside⟩
  · exact changed
  · exact booked_elsewhere booked here fresh' told other old
  · obtain ⟨⟨task, rfl⟩, due'⟩ := new i c hc
    obtain ⟨rfl, rfl⟩ := stage?_fresh inside
    exact List.mem_append_right _ due'

/-- **The books when nothing is done**, because the process that is due first is not ready, or the
report that is due first is no news to anyone. -/
theorem Booked.skip {root : Process σ ε α} {due : Due} {rest : List Due}
    (booked : root.Booked (due :: rest))
    (notReady : ∀ place task, root.stage? place = some (.ready task) → due ≠ .run place)
    (noNews : ∀ place first i results next outcome,
      root.stage? place = some (.waiting first results next) →
        root.stage? (place ++ [first + i]) = some (.ended outcome) →
          due ≠ .report place (first + i)) :
    root.Booked rest := by
  intro place stage found
  have before := booked place stage found
  cases stage with
  | ready task =>
    rcases List.mem_cons.1 before with same | later
    · exact absurd same.symm (notReady place task found)
    · exact later
  | waiting first results next =>
    refine ⟨before.1, ?_⟩
    intro i missing outcome ended
    rcases List.mem_cons.1 (before.2 i missing outcome ended) with same | later
    · exact absurd same.symm (noNews place first i results next outcome found ended)
    · exact later
  | ended _ => trivial
  | hung => trivial

end Process

namespace Lane

/-- The books when a process has run. -/
theorem booked_settle {l : Lane σ ε α} {path : List Nat} {task : Task σ ε α}
    {children : List (Process σ ε α)} {rest : List Due}
    (booked : l.root.Booked (.run path :: rest))
    (here : l.root.at? path = some (.node (.ready task) children)) (stop : Task.Stop σ ε α) :
    (l.root.put (stop.stage children.length) stop.started path).Booked
      (rest ++ dueAfter path children.length stop) := by
  have place : (Due.run path).place = path := rfl
  refine booked.put here (fun i c hc => ⟨Process.fresh_of_started (List.mem_of_getElem? hc), ?_⟩)
    (fun outcome parent slot ended inside => ?_) ?_
  · cases stop with
    | waiting count child next =>
      have hi : i < count + 1 := (Process.getElem?_brood.1 hc).1
      exact List.mem_map.2 ⟨i, List.mem_range.2 hi, rfl⟩
    | _ => cases hc
  · cases stop with
    | ended result =>
      rw [place] at inside
      simp only [dueAfter, inside, List.getLast?_concat, List.dropLast_concat, List.mem_singleton]
    | _ => cases ended
  · cases stop with
    | ended outcome => trivial
    | paused left => exact List.mem_append_right _ (List.mem_singleton.2 rfl)
    | hung => trivial
    | waiting count child next =>
      refine ⟨by rw [List.replicate_succ]; exact List.mem_cons_self, ?_⟩
      intro i _ outcome ended
      -- The children have only just started, so none of them has ended.
      rcases Process.ended_of_put here (fun c mem => Process.fresh_of_started mem) ended
        with ⟨_, stopped⟩ | old
      · cases stopped
      · rw [place, Process.stage?_concat here, List.getElem?_eq_none (by omega)] at old
        cases old

/-- The books when a waiting process goes on. -/
theorem booked_wake {l : Lane σ ε α} {parent : List Nat} {slot : Nat} {own : Stage σ ε α}
    {children : List (Process σ ε α)} {rest : List Due}
    (booked : l.root.Booked (.report parent slot :: rest))
    (here : l.root.at? parent = some (.node own children)) (task : Task σ ε α) :
    (l.wake parent task).1.root.Booked (rest ++ (l.wake parent task).2) :=
  booked.put here nofun nofun (List.mem_append_right _ (List.mem_singleton.2 rfl))

/-- The books when a waiting process has taken note of a result. -/
theorem booked_told {l : Lane σ ε α} {parent : List Nat} {first i : Nat}
    {results : List (Option α)} {next : List α → Task σ ε α} {children : List (Process σ ε α)}
    {a : α} {rest : List Due} (booked : l.root.Booked (.report parent (first + i) :: rest))
    (here : l.root.at? parent = some (.node (.waiting first results next) children))
    (missing : complete? (results.set i (some a)) = none) :
    (l.put parent (.waiting first (results.set i (some a)) next) []).root.Booked (rest ++ []) := by
  refine booked.put here nofun nofun ⟨none_mem_of_complete? missing, ?_⟩
  intro j known outcome ended
  have other : i ≠ j := by
    rintro rfl
    rw [List.getElem?_set_self'] at known
    obtain ⟨_, _, h⟩ := Option.map_eq_some_iff.1 known
    cases h
  rw [List.getElem?_set_ne other] at known
  have before := (booked _ _ (Process.stage?_of_at? here)).2 j known outcome
  have new : ∀ c ∈ ([] : List (Process σ ε α)), ∃ task, c = Process.fresh task := nofun
  rcases Process.ended_of_put here new ended with ⟨_, stopped⟩ | old
  · cases stopped
  · rcases List.mem_cons.1 (before old) with same | later
    · have slots := (Due.report.inj same).2
      omega
    · exact List.mem_append_left _ later

/-- **Whatever is done in a lane, its books stay complete.** -/
theorem Handled.booked {l : Lane σ ε α} {due : Due} {rest : List Due}
    {l' : Lane σ ε α × List Due} (h : l.Handled due l') (booked : l.root.Booked (due :: rest)) :
    l'.1.root.Booked (rest ++ l'.2) := by
  cases h with
  | run here => exact booked_settle booked here _
  | idle other =>
    rw [List.append_nil]
    refine booked.skip ?_ fun _ _ _ _ _ _ _ _ => nofun
    intro place task found same
    cases same
    exact other task found
  | failed here _ _ => exact booked_wake booked here _
  | joined here _ _ _ => exact booked_wake booked here _
  | told here _ _ missing => exact booked_told booked here missing
  | void other =>
    rw [List.append_nil]
    apply booked.skip (fun _ _ _ => nofun)
    intro place first i results next outcome found ended same
    cases same
    exact other first results next found (Nat.le_add_right _ _) outcome ended

/-! ## The end -/

/-- **When nothing is due, every process has ended or is stuck**: the children first. -/
theorem ended_or_stuck {root : Process σ ε α} (tidy : root.Tidy) (booked : root.Booked [])
    (p : Process σ ε α) : ∀ place, root.at? place = some p → (∃ outcome, p.stage = .ended outcome) ∨
      p.Stands .stuck [] ∧ ∃ inside, p.stage? inside = some .hung := by
  induction p using Process.induct with
  | node stage children ih =>
    intro place here
    have nothing := booked place stage (Process.stage?_of_at? here)
    cases stage with
    | ready task => cases nothing
    | ended outcome => exact .inl ⟨outcome, rfl⟩
    | hung =>
      have none : Interleaves (fun _ => ([] : List (σ → σ))) [] := .nil fun _ => rfl
      exact .inr ⟨.onward (fun _ c _ => .begun c) (fun _ _ => rfl) none .hung, [], rfl⟩
    | waiting first results next =>
      -- A result is missing. If its child had ended, the report on it would be due.
      obtain ⟨missing, none_⟩ := nothing
      obtain ⟨i, hi⟩ := List.mem_iff_getElem?.1 missing
      have bound : i < results.length := (List.getElem?_eq_some_iff.1 hi).1
      have length := (tidy.neat here).1
      have child : children[first + i]? = some children[first + i] :=
        List.getElem?_eq_getElem (by omega)
      have inside := (Process.at?_concat here (first + i)).trans child
      right
      rcases ih _ (List.mem_of_getElem? child) _ inside with ⟨outcome, ended⟩ | ⟨stuck, below, hung⟩
      · have told : root.stage? (place ++ [first + i]) = some (.ended outcome) := by
          rw [Process.stage?_concat here, child, Option.map_some, ended]
        cases none_ i hi outcome told
      · refine ⟨.of_child child stuck (.awaits (.stuck i bound (Function.update_self ..))),
          (first + i) :: below, ?_⟩
        rw [Process.stage?, Process.at?_cons, child]
        exact hung

/-- **When nothing is due any more, a lane is answered or stuck.** -/
theorem Sound.answered_or_stuck {task : Task σ ε α} {state : σ} {l : Lane σ ε α}
    (sound : l.Sound task state) (booked : l.root.Booked []) : l.answer.isSome ∨
      (∃ updates, l.state = perform updates state ∧ task.Stands .stuck updates) ∧
        ∃ place, l.root.stage? place = some .hung := by
  rcases ended_or_stuck sound.tidy booked l.root [] rfl with ⟨outcome, ended⟩ | ⟨stuck, hung⟩
  · have verdict := sound.verdict
    rw [ended] at verdict
    obtain ⟨a, answer, _⟩ := Option.map_eq_some_iff.1 verdict
    exact .inl (by rw [answer]; rfl)
  · obtain ⟨updates, state, leads⟩ := sound.leads
    have stands := leads .stuck [] stuck
    rw [List.append_nil] at stands
    exact .inr ⟨⟨updates, state, stands⟩, hung⟩

end Lane

end CallTree
