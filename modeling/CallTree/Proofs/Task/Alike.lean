/-
# CallTree.Proofs.Task.Alike — lanes in which the same is done.

A relation of tasks is carried over to what is made of them: to the ways in which they stop
(`Task.Stop.Alike`), to the stages of processes (`Stage.Alike`), and to running tasks in which the same
processes have been started (`Process.Alike`). Where the running tasks of two lanes are alike, the same is
done in both: a process that waits is told the same of its children (`Lane.tell_alike`), and a process
that runs is ready in both or in neither (`Process.Alike.ready`). Whether it stops alike is for the
relation to say, and then both lanes stay alike (`Lane.settle_alike`).
-/
import CallTree.Proofs.Task.Machine

namespace CallTree

variable {σ ε α : Type}

section

variable (R : Task σ ε α → Task σ ε α → Prop)

/-- Two stops that are alike, with related tasks. -/
inductive Task.Stop.Alike : Stop σ ε α → Stop σ ε α → Prop where
  | ended (outcome : Except ε α) : Alike (.ended outcome) (.ended outcome)
  | paused {rest rest' : Task σ ε α} (h : R rest rest') : Alike (.paused rest) (.paused rest')
  | hung : Alike .hung .hung
  | waiting {count : Nat} {child child' : Nat → Task σ ε α} {next next' : List α → Task σ ε α}
      (children : ∀ i, R (child i) (child' i)) (rest : ∀ values, R (next values) (next' values)) :
      Alike (.waiting count child next) (.waiting count child' next')

/-- Two stages that are alike, with related tasks. -/
inductive Stage.Alike : Stage σ ε α → Stage σ ε α → Prop where
  | ready {task task' : Task σ ε α} (h : R task task') : Alike (.ready task) (.ready task')
  | waiting (first : Nat) (results : List (Option α)) {next next' : List α → Task σ ε α}
      (rest : ∀ values, R (next values) (next' values)) :
      Alike (.waiting first results next) (.waiting first results next')
  | ended (outcome : Except ε α) : Alike (.ended outcome) (.ended outcome)
  | hung : Alike .hung .hung

/-- **`p.Alike R p'`** — the same processes have been started in both, and are at stages that are
alike. -/
inductive Process.Alike : Process σ ε α → Process σ ε α → Prop where
  | node {stage stage' : Stage σ ε α} {children children' : List (Process σ ε α)}
      (own : stage.Alike R stage') (each : List.Forall₂ Alike children children') :
      Alike (.node stage children) (.node stage' children')

end

section

variable {R : Task σ ε α → Task σ ε α → Prop}

/-! ## Stops -/

namespace Task.Stop.Alike

variable {stop stop' : Task.Stop σ ε α}

/-- The stage at which a stop leaves a process. -/
theorem stage (h : stop.Alike R stop') (first : Nat) : (stop.stage first).Alike R (stop'.stage first) := by
  cases h with
  | ended outcome => exact .ended outcome
  | paused rest => exact .ready rest
  | hung => exact .hung
  | waiting _ rest => exact .waiting _ _ rest

/-- What a stop starts. -/
theorem started (h : stop.Alike R stop') : List.Forall₂ (Process.Alike R) stop.started stop'.started := by
  cases h with
  | waiting children _ =>
    rw [Stop.started, Stop.started, Process.brood, Process.brood]
    exact forall₂_map fun i _ => .node (.ready (children i)) .nil
  | _ => exact .nil

/-- What a stop makes due. -/
theorem dueAfter (h : stop.Alike R stop') (path : List Nat) (first : Nat) :
    Lane.dueAfter path first stop' = Lane.dueAfter path first stop := by
  cases h <;> rfl

/-- What a stop comes to. -/
theorem outcome? (h : stop.Alike R stop') : stop'.outcome? = stop.outcome? := by
  cases h <;> rfl

end Task.Stop.Alike

/-! ## Processes -/

namespace Process

variable {p p' : Process σ ε α}

theorem alike_fresh {task task' : Task σ ε α} (h : R task task') : (fresh task).Alike R (fresh task') :=
  .node (.ready h) .nil

theorem Alike.stage (h : p.Alike R p') : p.stage.Alike R p'.stage := by
  cases h with
  | node own each => exact own

/-- The processes at one path. -/
theorem Alike.at? (h : p.Alike R p') (path : List Nat) :
    Option.Rel (Alike R) (p.at? path) (p'.at? path) := by
  induction path generalizing p p' with
  | nil => exact .some h
  | cons i path ih =>
    cases h with
    | @node _ _ children children' own each =>
      rw [at?_cons, at?_cons]
      have child := forall₂_getElem? each i
      generalize children[i]? = c, children'[i]? = c' at child
      cases child with
      | none => exact .none
      | some alike => exact ih alike

/-- **The same change** of two processes. -/
theorem Alike.put {stage stage' : Stage σ ε α} {started started' : List (Process σ ε α)}
    (own : stage.Alike R stage') (new : List.Forall₂ (Alike R) started started') (h : p.Alike R p')
    (path : List Nat) : (p.put stage started path).Alike R (p'.put stage' started' path) := by
  induction path generalizing p p' with
  | nil =>
    cases h with
    | node _ each => exact .node own (List.rel_append each new)
  | cons i path ih =>
    cases h with
    | node top each => exact .node top (forall₂_modify each (fun _ _ => ih) i)

/-- **A process that may be due** is ready in neither, or in both, with related tasks and as many
children. -/
theorem Alike.ready (h : p.Alike R p') (path : List Nat) :
    ((∀ task, p.stage? path ≠ some (.ready task)) ∧ ∀ task, p'.stage? path ≠ some (.ready task)) ∨
      ∃ task task' children children', R task task' ∧ children'.length = children.length ∧
        p.at? path = some (.node (.ready task) children) ∧
        p'.at? path = some (.node (.ready task') children') := by
  have there := h.at? path
  unfold stage?
  generalize p.at? path = q, p'.at? path = q' at there
  cases there with
  | none => exact .inl ⟨nofun, nofun⟩
  | some alike =>
    cases alike with
    | node own each =>
      cases own with
      | ready related => exact .inr ⟨_, _, _, _, related, each.length_eq.symm, rfl, rfl⟩
      | _ => exact .inl ⟨nofun, nofun⟩

end Process

/-! ## Lanes -/

namespace Lane

/-- What is due for a ready process is done. -/
theorem handle_of_ready {l : Lane σ ε α} {path : List Nat} {task : Task σ ε α}
    {children : List (Process σ ε α)} (here : l.root.at? path = some (.node (.ready task) children)) :
    l.handle (.run path) = { l with state := (task.advance l.state).2 }.settle path children.length
      (task.advance l.state).1 := by
  rw [handle, here]

/-- Nothing is done for a process that is not ready. -/
theorem handle_of_not_ready {l : Lane σ ε α} {path : List Nat}
    (other : ∀ task, l.root.stage? path ≠ some (.ready task)) : l.handle (.run path) = (l, []) := by
  rw [handle]
  split
  · rename_i task _ here
    exact absurd (Process.stage?_of_at? here) (other task)
  · rfl

/-- A process that is told something changes nothing else. -/
theorem tell_rest (l : Lane σ ε α) (parent : List Nat) (slot : Nat) :
    (l.tell parent slot).1.state = l.state ∧ (l.tell parent slot).1.answer = l.answer := by
  have done := l.handled_tell parent slot
  generalize l.tell parent slot = l' at done
  cases done <;> exact ⟨rfl, rfl⟩

variable (R) in
/-- **`Alike R x x'`** — the same has been done in both lanes, and the same is due. -/
structure Alike (x x' : Lane σ ε α × List Due) : Prop where
  root : x.1.root.Alike R x'.1.root
  due : x'.2 = x.2

variable {l l' : Lane σ ε α}

/-- A waiting process goes on. -/
theorem wake_alike (h : l.root.Alike R l'.root) (path : List Nat) {task task' : Task σ ε α}
    (related : R task task') : Alike R (l.wake path task) (l'.wake path task') :=
  ⟨.put (.ready related) .nil h path, rfl⟩

/-- A process has stopped, whatever it has made of the states. -/
theorem settle_alike (h : l.root.Alike R l'.root) (s s' : σ) (path : List Nat) (first : Nat)
    {stop stop' : Task.Stop σ ε α} (stops : stop.Alike R stop') :
    Alike R ({ l with state := s }.settle path first stop)
      ({ l' with state := s' }.settle path first stop') :=
  ⟨.put (stops.stage first) stops.started h path, stops.dueAfter path first⟩

/-- **A process is told of the end of a child**, and is told the same in both lanes. -/
theorem tell_alike (done : ∀ outcome, R (.done outcome) (.done outcome))
    (h : l.root.Alike R l'.root) (parent : List Nat) (slot : Nat) :
    Alike R (l.tell parent slot) (l'.tell parent slot) := by
  have void : Alike R (l, []) (l', []) := ⟨h, rfl⟩
  unfold tell
  have there := h.at? parent
  generalize l.root.at? parent = p, l'.root.at? parent = p' at there
  cases there with
  | none => exact void
  | some alike =>
    cases alike with
    | @node _ _ children children' own each =>
      cases own with
      | ready _ => exact void
      | ended _ => exact void
      | hung => exact void
      | @waiting first results next next' rest =>
        by_cases early : slot < first
        · simp only [if_pos early]
          exact void
        · simp only [if_neg early]
          -- It is told what the child is at, and that is alike.
          have child := forall₂_getElem? each slot
          generalize children[slot]? = c, children'[slot]? = c' at child
          cases child with
          | none => exact void
          | @some c c' alike =>
            have at_ := alike.stage
            simp only [Option.map_some]
            generalize c.stage = s, c'.stage = s' at at_
            cases at_ with
            | ready _ => exact void
            | waiting _ _ _ => exact void
            | hung => exact void
            | ended outcome =>
              cases outcome with
              | error e => exact wake_alike h parent (done _)
              | ok a =>
                simp only
                cases complete? (results.set (slot - first) (some a)) with
                | some values => exact wake_alike h parent (rest values)
                | none => exact ⟨.put (.waiting _ _ rest) .nil h parent, rfl⟩

end Lane

end

end CallTree
