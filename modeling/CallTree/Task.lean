/-
# CallTree.Task — concurrent work as a tree.

A task changes a state it shares with other tasks, lets others run, or splits into children and
waits for all their results. Tasks know nothing of the order in which they run: that is decided by
whoever runs them (`CallTree.Task.Machine`). A task takes no turn back: the first failure of a child
is the failure of its parent, and nothing catches it.

`advance` runs a task as far as it goes by itself: that is its first turn. `atOnce` calls a task off that
has not come to anything soon after.
-/

namespace CallTree

/-- **`Task σ ε α`** — work on a shared state `σ` that gives an `α` or fails with an `ε`. -/
inductive Task (σ ε α : Type) where
  /-- The work is done. -/
  | done (outcome : Except ε α)
  /-- Change the state, and go on with what it was before. -/
  | act (update : σ → σ) (next : σ → Task σ ε α)
  /-- Let others run first. -/
  | pause (next : Task σ ε α)
  /-- Never come back. -/
  | hang
  /-- Start `count` children and wait for their results, in their order. -/
  | gather (count : Nat) (child : Nat → Task σ ε α) (next : List α → Task σ ε α)

namespace Task

variable {σ ε α : Type}

/-- Succeed. -/
def succeed (a : α) : Task σ ε α := .done (.ok a)

/-- Fail. -/
def fail (e : ε) : Task σ ε α := .done (.error e)

/-- Start a list of children. -/
def gatherAll (children : List (Task σ ε α)) (next : List α → Task σ ε α) : Task σ ε α :=
  .gather children.length (fun i => children.getD i .hang) next

/-- Go on with the result of a task; a failure stays. -/
def andThen : Task σ ε α → (α → Task σ ε α) → Task σ ε α
  | .done (.ok a), k => k a
  | .done (.error e), _ => .done (.error e)
  | .act update next, k => .act update fun s => andThen (next s) k
  | .pause next, k => .pause (andThen next k)
  | .hang, _ => .hang
  | .gather count child next, k => .gather count child fun results => andThen (next results) k

/-- Run a task as far as it goes by itself, and go on with its outcome, if it has come to one. -/
def ahead : Task σ ε α → (Option (Except ε α) → Task σ ε α) → Task σ ε α
  | .done outcome, k => k (some outcome)
  | .act update next, k => .act update fun s => ahead (next s) k
  | .pause _, k => k none
  | .hang, k => k none
  | .gather 0 _ next, k => ahead (next []) k
  | .gather (_ + 1) _ _, k => k none

/-- Run tasks so one after the other. -/
def aheadAll : List (Task σ ε α) → (List (Option (Except ε α)) → Task σ ε α) → Task σ ε α
  | [], k => k []
  | t :: rest, k => t.ahead fun outcome => aheadAll rest fun others => k (outcome :: others)

/-- The first failure among outcomes. -/
def firstFailure? : List (Option (Except ε α)) → Option ε
  | [] => none
  | some (.error e) :: _ => some e
  | _ :: rest => firstFailure? rest

theorem firstFailure?_cons {outcome : Option (Except ε α)} (goesOn : ∀ e, outcome ≠ some (.error e))
    (rest : List (Option (Except ε α))) : firstFailure? (outcome :: rest) = firstFailure? rest := by
  rcases outcome with _ | e | a
  · rfl
  · exact absurd rfl (goesOn e)
  · rfl

/-- What a task fails with that is called off while it waits for its children: if one of them has not ended
and one has failed, with the first failure. If all have ended, they are no longer waited for, and none of them
is listened to. -/
def pressing? (outcomes : List (Option (Except ε α))) : Option ε :=
  if outcomes.any Option.isNone then firstFailure? outcomes else none

theorem firstFailure?_of_pressing? {outcomes : List (Option (Except ε α))} {e : ε}
    (h : pressing? outcomes = some e) : firstFailure? outcomes = some e := by
  unfold pressing? at h
  split at h
  · exact h
  · cases h

/-- **Call a task off** after two turns. It runs until it first lets others run or waits. If it has ended, it
has come to that. If it has paused, it has a second turn. If it waits for children, each of them has its first
turn. Then the task fails. -/
def atOnce (e : ε) : Task σ ε α → Task σ ε α
  | .done outcome => .done outcome
  | .act update next => .act update fun s => atOnce e (next s)
  | .pause next => next.ahead fun outcome => .done (outcome.getD (.error e))
  | .hang => .fail e
  | .gather 0 _ next => atOnce e (next [])
  | .gather (count + 1) child _ =>
    aheadAll ((List.range (count + 1)).map child) fun outcomes => .fail ((pressing? outcomes).getD e)

/-- Why a task no longer runs by itself. -/
inductive Stop (σ ε α : Type) where
  | ended (outcome : Except ε α)
  | paused (rest : Task σ ε α)
  | hung
  /-- The task waits for its children. There are `count + 1` of them: waiting for none is no
  reason to stop. -/
  | waiting (count : Nat) (child : Nat → Task σ ε α) (next : List α → Task σ ε α)

/-- The outcome of a task that has ended. -/
def Stop.outcome? : Stop σ ε α → Option (Except ε α)
  | .ended outcome => some outcome
  | .paused _ => none
  | .hung => none
  | .waiting _ _ _ => none

/-- **Advance** a task as far as it goes by itself. -/
def advance : Task σ ε α → σ → Stop σ ε α × σ
  | .done outcome, s => (.ended outcome, s)
  | .act update next, s => advance (next s) (update s)
  | .pause next, s => (.paused next, s)
  | .hang, s => (.hung, s)
  | .gather 0 _ next, s => advance (next []) s
  | .gather (count + 1) child next, s => (.waiting count child next, s)

/-- Advance tasks one after the other. -/
def advanceAll : List (Task σ ε α) → σ → List (Option (Except ε α)) × σ
  | [], s => ([], s)
  | t :: rest, s =>
    let others := advanceAll rest (t.advance s).2
    ((t.advance s).1.outcome? :: others.1, others.2)

/-- **What a task has come to when it is called off** (`atOnce`), if anything, and the state then. -/
def early (t : Task σ ε α) (s : σ) : Option (Except ε α) × σ :=
  match t.advance s with
  | (.ended outcome, s) => (some outcome, s)
  | (.paused rest, s) => ((rest.advance s).1.outcome?, (rest.advance s).2)
  | (.hung, s) => (none, s)
  | (.waiting count child _, s) =>
    let children := advanceAll ((List.range (count + 1)).map child) s
    ((pressing? children.1).map .error, children.2)

end Task

end CallTree
