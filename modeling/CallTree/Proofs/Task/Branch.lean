/-
# CallTree.Proofs.Task.Branch — a task beside its siblings.

Seen from one of its children, a task that runs its children side by side is that child by itself, with
its own part of the queue, in a state that others write too (`Lane.Branch`). So every run of the whole is
a run of each child, of which the state changes between its turns (`Lane.Beside`,
`Lane.Reaches.beside`). If the task fails and only passes on what its children come to, then it fails with
the failure of one of them (`Lane.Reaches.beside_of_fail`).
-/
import CallTree.Proofs.Task.Extension
import CallTree.Proofs.Task.Growth

namespace CallTree

variable {σ ε α : Type}

/-! ## Below one child -/

/-- **What is due below one child**, seen from there. -/
def Due.within (i : Nat) : Due → Option Due
  | .run (j :: path) => if j = i then some (.run path) else none
  | .report (j :: parent) slot => if j = i then some (.report parent slot) else none
  | .run [] => none
  | .report [] _ => none

theorem Due.within_run (i : Nat) (path : List Nat) : (Due.run (i :: path)).within i = some (.run path) :=
  if_pos rfl

theorem Due.within_report (i : Nat) (parent : List Nat) (slot : Nat) :
    (Due.report (i :: parent) slot).within i = some (.report parent slot) :=
  if_pos rfl

/-- What is due below a child is due for a process below it. -/
theorem Due.within_eq_some_iff {i : Nat} {due due' : Due} : due.within i = some due' ↔
    (∃ path, due = .run (i :: path) ∧ due' = .run path) ∨
      ∃ parent slot, due = .report (i :: parent) slot ∧ due' = .report parent slot := by
  constructor
  · intro h
    rcases due with ⟨_ | ⟨j, path⟩⟩ | ⟨_ | ⟨j, parent⟩, slot⟩
    · cases h
    · obtain ⟨rfl, same⟩ := Option.ite_none_right_eq_some.1 h
      exact .inl ⟨path, rfl, (Option.some.inj same).symm⟩
    · cases h
    · obtain ⟨rfl, same⟩ := Option.ite_none_right_eq_some.1 h
      exact .inr ⟨parent, slot, rfl, (Option.some.inj same).symm⟩
  · rintro (⟨path, rfl, rfl⟩ | ⟨parent, slot, rfl, rfl⟩)
    · exact within_run i path
    · exact within_report i parent slot

/-- Of the children that a root starts, each is due once. -/
theorem Due.within_children {i count : Nat} (bound : i < count) :
    (List.range count).filterMap (fun k => (Due.run [k]).within i) = [.run []] := by
  have others (n : Nat) (le : n ≤ i) :
      (List.range n).filterMap (fun k => (Due.run [k]).within i) = [] := by
    rw [List.filterMap_eq_nil_iff]
    intro k mem
    have less := List.mem_range.1 mem
    exact if_neg (by omega)
  induction count with
  | zero => omega
  | succ n ih =>
    rw [List.range_succ, List.filterMap_append]
    rcases Nat.lt_succ_iff_lt_or_eq.1 bound with less | rfl
    · have last : [n].filterMap (fun k => (Due.run [k]).within i) = [] :=
        List.filterMap_cons_none (if_neg (by omega))
      rw [ih less, last]
      rfl
    · have last : [i].filterMap (fun k => (Due.run [k]).within i) = [.run []] :=
        List.filterMap_cons_some (within_run i [])
      rw [others i le_rfl, last]
      rfl

namespace Process

variable {i : Nat} {p c : Process σ ε α} {own : Stage σ ε α} {started : List (Process σ ε α)}

/-- Places below a child. -/
theorem at?_below (child : p.at? [i] = some c) (path : List Nat) : p.at? (i :: path) = c.at? path := by
  obtain ⟨stage, children⟩ := p
  rw [at?_cons] at child ⊢
  obtain ⟨c', here, same⟩ := Option.bind_eq_some_iff.1 child
  rw [at?_nil, Option.some.injEq] at same
  rw [here, Option.bind_some, same]

/-- A change below a child changes that child. -/
theorem at?_put_below (child : p.at? [i] = some c) (path : List Nat) :
    (p.put own started (i :: path)).at? [i] = some (c.put own started path) := by
  obtain ⟨stage, children⟩ := p
  obtain ⟨c', here, same⟩ := at?_cons_eq_some_iff.1 child
  rw [at?_nil, Option.some.injEq] at same
  rw [put, at?_cons, List.getElem?_modify_eq, here, same]
  rfl

/-- A change elsewhere leaves a child as it is. -/
theorem at?_put_beside (child : p.at? [i] = some c) {path : List Nat} (elsewhere : path.head? ≠ some i) :
    (p.put own started path).at? [i] = some c := by
  obtain ⟨stage, children⟩ := p
  rw [at?_cons] at child
  cases path with
  | nil =>
    obtain ⟨c', here, same⟩ := Option.bind_eq_some_iff.1 child
    rw [put, at?_cons, List.getElem?_append_left (List.getElem?_eq_some_iff.1 here).1, child]
  | cons j path =>
    have other : j ≠ i := fun same => elsewhere (by rw [same]; rfl)
    rw [put, at?_cons, List.getElem?_modify_ne _ _ other, child]

end Process

namespace Lane

/-- What becomes due when a process below a child stops: seen from there, the same. -/
theorem dueAfter_within (i : Nat) (path : List Nat) (first : Nat) (stop : Task.Stop σ ε α) :
    (dueAfter (i :: path) first stop).filterMap (Due.within i) = dueAfter path first stop := by
  cases stop with
  | ended outcome =>
    cases path with
    | nil => rfl
    | cons j path =>
      -- Only the root of the child has a parent that is not below it.
      simp only [dueAfter, List.getLast?_cons_cons, List.dropLast_cons_cons]
      cases (j :: path).getLast? with
      | none => rfl
      | some slot => exact List.filterMap_cons_some (Due.within_report i _ slot)
  | paused rest => exact List.filterMap_cons_some (Due.within_run i path)
  | hung => rfl
  | waiting count child next =>
    rw [dueAfter, dueAfter, List.filterMap_map, ← List.filterMap_eq_map]
    apply List.filterMap_congr
    intro k _
    exact Due.within_run i _

/-- What becomes due when a process elsewhere stops is not due below a child that is there already. -/
theorem dueAfter_elsewhere {i first : Nat} {path : List Nat} (elsewhere : path.head? ≠ some i)
    (there : path = [] → i < first) (stop : Task.Stop σ ε α) :
    (dueAfter path first stop).filterMap (Due.within i) = [] := by
  have apart (j : Nat) (rest : List Nat) (head : path.head? = some j) : j ≠ i := by
    rintro rfl
    exact elsewhere head
  cases stop with
  | hung => rfl
  | paused rest =>
    cases path with
    | nil => rfl
    | cons j path => exact List.filterMap_cons_none (if_neg (apart j path rfl))
  | ended outcome =>
    rcases path with _ | ⟨j, _ | ⟨k, path⟩⟩
    · rfl
    · rfl
    · simp only [dueAfter, List.dropLast_cons_cons]
      cases (j :: k :: path).getLast? with
      | none => rfl
      | some slot => exact List.filterMap_cons_none (if_neg (apart j (k :: path) rfl))
  | waiting count child next =>
    rw [dueAfter, List.filterMap_map, List.filterMap_eq_nil_iff]
    intro k _
    cases path with
    | nil =>
      have later := there rfl
      exact if_neg (by omega)
    | cons j path => exact if_neg (apart j path rfl)

/-! ## One branch of a lane -/

/-- **A branch of a lane**: the child at an index by itself, with what is due below it. The answer is its
own. -/
structure Branch (i : Nat) (x y : Lane σ ε α × List Due) : Prop where
  root : x.1.root.at? [i] = some y.1.root
  state : y.1.state = x.1.state
  due : y.2 = x.2.filterMap (Due.within i)

/-- What is done below a child is done in its branch. -/
theorem Branch.handle {i : Nat} {l m : Lane σ ε α} (root : l.root.at? [i] = some m.root)
    (state : m.state = l.state) {due due' : Due} (within : due.within i = some due') :
    Branch i (l.handle due) (m.handle due') := by
  rcases Due.within_eq_some_iff.1 within with ⟨path, rfl, rfl⟩ | ⟨parent, slot, rfl, rfl⟩
  · rw [Lane.handle, Lane.handle, Process.at?_below root]
    split
    · rename_i task children here
      refine ⟨?_, ?_, ?_⟩
      · simp only [settle, put, state]
        exact Process.at?_put_below root path
      · simp only [settle, put, state]
      · simp only [settle, state]
        exact (dueAfter_within i path _ _).symm
    · exact ⟨root, state, rfl⟩
  · -- Both are told of the same child, so both go on in the same way, or not.
    have same : Branch i (l, []) (m, []) := ⟨root, state, rfl⟩
    have due : [Due.run (i :: parent)].filterMap (Due.within i) = [.run parent] :=
      List.filterMap_cons_some (Due.within_run i parent)
    have woken (task : Task σ ε α) : Branch i (l.wake (i :: parent) task) (m.wake parent task) :=
      ⟨Process.at?_put_below root parent, state, due.symm⟩
    rw [Lane.handle, Lane.handle, tell, tell, Process.at?_below root]
    split
    · split
      · exact same
      · split
        · exact woken _
        · split
          · exact woken _
          · exact ⟨Process.at?_put_below root parent, state, rfl⟩
        · exact same
    · exact same

/-- What is done elsewhere leaves a branch as it is, except for the state. -/
theorem Branch.elsewhere {i : Nat} {l m : Lane σ ε α} (root : l.root.at? [i] = some m.root) {due : Due}
    (within : due.within i = none) :
    Branch i (l.handle due) ({ m with state := (l.handle due).1.state }, []) := by
  have apart (path : List Nat) (h : due = .run path ∨ ∃ slot, due = .report path slot) :
      path.head? ≠ some i := by
    intro head
    obtain ⟨rest, rfl⟩ : ∃ rest, path = i :: rest := by
      cases path with
      | nil => cases head
      | cons j rest => exact ⟨rest, by rw [Option.some.inj head]⟩
    rcases h with rfl | ⟨slot, rfl⟩
    · rw [Due.within_run] at within
      cases within
    · rw [Due.within_report] at within
      cases within
  have woken {path : List Nat} (away : path.head? ≠ some i) :
      [Due.run path].filterMap (Due.within i) = [] := by
    cases path with
    | nil => rfl
    | cons j path => exact List.filterMap_cons_none (if_neg fun same => away (by rw [same]; rfl))
  have done := l.handled due
  generalize l.handle due = l' at done
  cases done with
  | @run path task children here =>
    have away := apart path (.inl rfl)
    refine ⟨Process.at?_put_beside root away, rfl, ?_⟩
    refine (dueAfter_elsewhere away ?_ _).symm
    -- A child that is there already is none of those that the root starts now.
    rintro rfl
    rw [Process.at?_nil, Option.some.injEq] at here
    rw [here, Process.at?_cons] at root
    obtain ⟨c, child, -⟩ := Option.bind_eq_some_iff.1 root
    exact (List.getElem?_eq_some_iff.1 child).1
  | idle _ => exact ⟨root, rfl, rfl⟩
  | failed _ _ _ =>
    have away := apart _ (.inr ⟨_, rfl⟩)
    exact ⟨Process.at?_put_beside root away, rfl, (woken away).symm⟩
  | joined _ _ _ _ =>
    have away := apart _ (.inr ⟨_, rfl⟩)
    exact ⟨Process.at?_put_beside root away, rfl, (woken away).symm⟩
  | told _ _ _ _ => exact ⟨Process.at?_put_beside root (apart _ (.inr ⟨_, rfl⟩)), rfl, rfl⟩
  | void _ => exact ⟨root, rfl, rfl⟩

/-! ## A lane of which others write the state -/

/-- **A run beside others**: turns of a lane, between which others write its state. -/
inductive Beside (x : Lane σ ε α × List Due) : Lane σ ε α × List Due → Prop where
  | refl : Beside x x
  | turn {y : Lane σ ε α × List Due} (run : Beside x y) : Beside x (Lane.turn y)
  | written {y : Lane σ ε α × List Due} (run : Beside x y) (s : σ) :
      Beside x ({ y.1 with state := s }, y.2)

/-- **Step.** A turn of a lane is a turn of a branch, or the state of the branch is written. -/
theorem Branch.turn {i : Nat} {x y first : Lane σ ε α × List Due} (branch : Branch i x y)
    (run : Beside first y) : ∃ y', Beside first y' ∧ Branch i (Lane.turn x) y' := by
  obtain ⟨l, queue⟩ := x
  obtain ⟨m, queue'⟩ := y
  obtain ⟨root, state, due⟩ := branch
  simp only at root state due
  cases queue with
  | nil => exact ⟨_, run, root, state, due⟩
  | cons first rest =>
    rw [List.filterMap_cons] at due
    cases within : first.within i with
    | some inner =>
      rw [within] at due
      simp only at due
      subst due
      obtain ⟨root', state', due'⟩ := Branch.handle root state within
      refine ⟨_, run.turn, root', state', ?_⟩
      rw [Lane.turn, Lane.turn, List.filterMap_append, due']
    | none =>
      rw [within] at due
      simp only at due
      subst due
      obtain ⟨root', state', due'⟩ := Branch.elsewhere (m := m) root within
      refine ⟨_, run.written (l.handle first).1.state, root', state', ?_⟩
      simp only [Lane.turn, List.filterMap_append]
      rw [← due', List.append_nil]

/-- The first turn of tasks that run side by side: each has begun. -/
theorem branch_begun {tasks : List (Task σ ε α)} {next : List α → Task σ ε α} {s : σ} {i : Nat}
    {t : Task σ ε α} (here : tasks[i]? = some t) :
    Branch i (Lane.turn (begun (.gatherAll tasks next) s)) (begun t s) := by
  obtain ⟨bound, rfl⟩ := List.getElem?_eq_some_iff.1 here
  obtain ⟨count, length⟩ := Nat.exists_eq_add_of_lt (Nat.zero_lt_of_lt bound)
  rw [Nat.zero_add] at length
  have stops : (Task.gatherAll tasks next).advance s =
      (.waiting count (fun i => tasks.getD i .hang) next, s) := by
    rw [Task.gatherAll, length]
    rfl
  have child : tasks.getD i .hang = tasks[i] := by
    rw [List.getD_eq_getElem?_getD, here, Option.getD_some]
  have once := Due.within_children (length ▸ bound)
  refine ⟨?_, ?_, ?_⟩
  · simp only [begun, Lane.turn, fresh, Lane.handle, Process.fresh, Process.at?_nil, stops, settle, put,
      Process.put, Task.Stop.started, Process.brood, List.nil_append, Process.at?_cons]
    rw [List.getElem?_map, List.getElem?_range (length ▸ bound), Option.map_some, child]
    rfl
  · simp [begun, Lane.turn, fresh, Lane.handle, Process.fresh, stops, settle, put]
  · simp only [begun, Lane.turn, fresh, Lane.handle, Process.fresh, Process.at?_nil, stops, settle,
      dueAfter, List.filterMap_map, List.nil_append, List.length_nil, Nat.zero_add]
    exact once.symm

/-- **Run.** In a run of tasks side by side, each of them runs beside others. -/
theorem Reaches.beside {tasks : List (Task σ ε α)} {next : List α → Task σ ε α} {s : σ}
    {x : Lane σ ε α × List Due} (run : Reaches (begun (.gatherAll tasks next) s) x) {i : Nat}
    {t : Task σ ε α} (here : tasks[i]? = some t) :
    x = begun (.gatherAll tasks next) s ∨ ∃ y, Beside (begun t s) y ∧ Branch i x y := by
  obtain ⟨n, rfl⟩ := run
  induction n with
  | zero => exact .inl rfl
  | succ n ih =>
    right
    rw [Function.iterate_succ_apply']
    rcases ih with first | ⟨y, beside, branch⟩
    · rw [first]
      exact ⟨_, .refl, branch_begun here⟩
    · exact branch.turn beside

end Lane

/-! ## Failures come from below -/

/-- **How a root stands that passes on what its `count` children come to**: it waits for them, and will
pass on their results; or a child has failed, and it is to fail, or has failed, with that. -/
def Stage.Relays (count : Nat) (root : Process σ ε α) : Stage σ ε α → Prop
  | .ready task => task.Passes ∨
      ∃ e i, task = .fail e ∧ i < count ∧ root.stage? [i] = some (.ended (.error e))
  | .waiting first results next => first + results.length ≤ count ∧ ∀ values, (next values).Passes
  | .ended (.error e) => ∃ i, i < count ∧ root.stage? [i] = some (.ended (.error e))
  | .ended (.ok _) => True
  | .hung => True

section

variable {count : Nat} {root root' : Process σ ε α}

/-- What a root passes on, it passes on as long as no failure is taken back. -/
theorem Stage.Relays.mono {own : Stage σ ε α} (relays : own.Relays count root)
    (stays : ∀ i e, root.stage? [i] = some (.ended (.error e)) →
      root'.stage? [i] = some (.ended (.error e))) : own.Relays count root' := by
  cases own with
  | ready task =>
    rcases relays with passes | ⟨e, i, same, bound, ended⟩
    · exact .inl passes
    · exact .inr ⟨e, i, same, bound, stays i e ended⟩
  | waiting first results next => exact relays
  | ended outcome =>
    cases outcome with
    | ok a => trivial
    | error e =>
      obtain ⟨i, bound, ended⟩ := relays
      exact ⟨i, bound, stays i e ended⟩
  | hung => trivial

/-- What such a root stops at when it runs. -/
theorem Stage.Relays.advance {task : Task σ ε α} (relays : (Stage.ready task).Relays count root) (s : σ)
    (first : Nat) : ((task.advance s).1.stage first).Relays count root := by
  rcases relays with passes | ⟨e, i, rfl, bound, ended⟩
  · obtain ⟨a, stops⟩ := passes.advance s
    rw [stops]
    trivial
  · exact ⟨i, bound, ended⟩

namespace Lane

/-- **Step.** A root that passes on what its children come to does so, whatever is done in its lane. -/
theorem relays_handled {l : Lane σ ε α} (tidy : l.root.Tidy)
    (relays : l.root.stage.Relays count l.root) {due : Due} {l' : Lane σ ε α × List Due}
    (h : l.Handled due l') : l'.1.root.stage.Relays count l'.1.root := by
  -- What is put at the root passes on what has been put there; what is put below leaves the root alone.
  have put {path : List Nat} {own own' : Stage σ ε α} {children started : List (Process σ ε α)}
      (here : l.root.at? path = some (.node own children)) (active : ∀ outcome, own ≠ .ended outcome)
      (goesOn : path = [] → own.Relays count l.root → own'.Relays count l.root) :
      (l.root.put own' started path).stage.Relays count (l.root.put own' started path) := by
    have stays (i : Nat) (e : ε) (ended : l.root.stage? [i] = some (.ended (.error e))) :
        (l.root.put own' started path).stage? [i] = some (.ended (.error e)) :=
      Process.ended_put here active ended
    cases path with
    | cons j path =>
      rw [Process.stage_put_cons]
      exact relays.mono stays
    | nil =>
      rw [Process.at?_nil, Option.some.injEq] at here
      have passed : own'.Relays count l.root := by
        apply goesOn rfl
        rw [here] at relays ⊢
        exact relays
      have now : (l.root.put own' started []).stage = own' := by
        rw [here]
        rfl
      rw [now]
      exact passed.mono stays
  cases h with
  | @run path task children here =>
    exact put here (Stage.ready_ne_ended task) fun _ relays => relays.advance _ _
  | idle _ => exact relays
  | @failed parent first i results next children c e here child ended =>
    refine put here (Stage.waiting_ne_ended first results next) ?_
    rintro rfl ⟨bound, -⟩
    -- The child is one of those that the root waits for.
    have among := (List.getElem?_eq_some_iff.1 child).1
    rw [(tidy.neat here).1] at among
    refine .inr ⟨e, first + i, rfl, Nat.lt_of_lt_of_le among bound, ?_⟩
    have there := Process.stage?_concat here (first + i)
    rw [child, Option.map_some, ended] at there
    exact there
  | @joined parent first i results next children c a values here child ended complete =>
    exact put here (Stage.waiting_ne_ended first results next) fun _ relays => .inl (relays.2 values)
  | @told parent first i results next children c a here child ended missing =>
    refine put here (Stage.waiting_ne_ended first results next) ?_
    rintro - ⟨bound, passes⟩
    exact ⟨by rw [List.length_set]; exact bound, passes⟩
  | void _ => exact relays

end Lane

end

namespace Lane

section

variable {tasks : List (Task σ ε α)} {next : List α → Task σ ε α} {s : σ}

/-- After its first turn, a task that runs others side by side waits for them. -/
theorem relays_begun (passes : ∀ values, (next values).Passes) :
    (Lane.turn (begun (.gatherAll tasks next) s)).1.root.stage.Relays tasks.length
      (Lane.turn (begun (.gatherAll tasks next) s)).1.root := by
  cases tasks with
  | nil =>
    obtain ⟨a, stops⟩ := (passes []).advance s
    have ended : (Task.gatherAll [] next).advance s = (.ended (.ok a), s) := stops
    rw [turn_begun_of_ended ended]
    trivial
  | cons t rest =>
    refine ⟨?_, passes⟩
    rw [List.length_replicate]
    exact le_of_eq (Nat.zero_add _)

/-- **Run.** A task that only passes on what its children come to, and fails, fails with the failure of
one of them. -/
theorem Reaches.beside_of_fail (passes : ∀ values, (next values).Passes) {x : Lane σ ε α × List Due}
    (run : Reaches (begun (.gatherAll tasks next) s) x) {a : Answer σ ε α} (answer : x.1.answer = some a)
    {e : ε} (fails : a.outcome = .error e) :
    ∃ (i : Nat) (t : Task σ ε α) (y : Lane σ ε α × List Due),
      tasks[i]? = some t ∧ Beside (begun t s) y ∧ y.1.root.stage = .ended (.error e) := by
  have relays : x = begun (.gatherAll tasks next) s ∨ x.1.root.stage.Relays tasks.length x.1.root := by
    obtain ⟨n, rfl⟩ := run
    cases n with
    | zero => exact .inl rfl
    | succ n =>
      right
      have kept := (kept_begun (Task.gatherAll tasks next) s).turn
      have rest : Reaches (Lane.turn (begun (.gatherAll tasks next) s))
          (Lane.turn^[n + 1] (begun (.gatherAll tasks next) s)) := ⟨n, rfl⟩
      refine (rest.keeps (P := fun x => Kept (Task.gatherAll tasks next) s x ∧
        x.1.root.stage.Relays tasks.length x.1.root) ?_ ⟨kept, relays_begun passes⟩).2
      rintro ⟨l, _ | ⟨due, rest⟩⟩ ⟨kept, relays⟩
      · exact ⟨kept, relays⟩
      · have relays' := relays_handled kept.sound.tidy relays (l.handled due)
        exact ⟨kept.turn, relays'⟩
  have verdict := (run.kept (kept_begun _ s)).sound.verdict
  rw [answer, Option.map_some, fails] at verdict
  have ended := Stage.ended_of_outcome? verdict.symm
  rcases relays with rfl | relays
  · cases answer
  · rw [ended] at relays
    obtain ⟨i, bound, failed⟩ := relays
    have here := List.getElem?_eq_getElem bound
    rcases run.beside here with rfl | ⟨y, beside, branch⟩
    · cases answer
    · refine ⟨i, tasks[i], y, here, beside, ?_⟩
      rw [Process.stage?, branch.root, Option.map_some, Option.some.injEq] at failed
      exact failed

end

end Lane

end CallTree
