/-
# CallTree.Task.Process — a running task, with the tasks it has started below it.

A process is at a stage and has children: the processes it has started so far, the earliest first.
Children are only ever added, so a path of child indices (outermost first) names the same process
for as long as it is there. A process that has ended keeps its outcome and its children: after a
failure these may still be running.

Whatever happens to a process, it is put at another stage, and children may be added to it (`put`).
`ranks` lists what is still to be done in a process; putting it at a later stage shrinks that list.
-/
import CallTree.Task
import CallTree.Task.Replacement

namespace CallTree

/-- What a process is at. -/
inductive Stage (σ ε α : Type) where
  | ready (task : Task σ ε α)
  /-- Waiting for the children from `first` on; their results so far. -/
  | waiting (first : Nat) (results : List (Option α)) (next : List α → Task σ ε α)
  | ended (outcome : Except ε α)
  | hung

/-- **`Process σ ε α`** — a running task with those it has started. -/
inductive Process (σ ε α : Type) where
  | node (stage : Stage σ ε α) (children : List (Process σ ε α))

namespace Process

variable {σ ε α : Type}

/-- What a process is at. -/
def stage : Process σ ε α → Stage σ ε α
  | .node stage _ => stage

/-- The processes that a process has started. -/
def children : Process σ ε α → List (Process σ ε α)
  | .node _ children => children

/-- A process that has not started anything yet. -/
def fresh (task : Task σ ε α) : Process σ ε α := .node (.ready task) []

/-- The process at a path. -/
def at? : List Nat → Process σ ε α → Option (Process σ ε α)
  | [], p => some p
  | i :: path, .node _ children =>
    match children[i]? with
    | some child => at? path child
    | none => none

/-- Put the process at a path at a stage, and add to its children. -/
def put (stage : Stage σ ε α) (started : List (Process σ ε α)) :
    List Nat → Process σ ε α → Process σ ε α
  | [], .node _ children => .node stage (children ++ started)
  | i :: path, .node own children => .node own (children.modify i (put stage started path))

/-- Children of a process, ready to run. -/
def brood (count : Nat) (child : Nat → Task σ ε α) : List (Process σ ε α) :=
  (List.range count).map fun i => fresh (child i)

end Process

/-! ## What a stopped task leaves -/

namespace Task.Stop

variable {σ ε α : Type}

/-- The stage at which a task has stopped that has started so many children before. -/
def stage (first : Nat) : Stop σ ε α → Stage σ ε α
  | .ended outcome => .ended outcome
  | .paused rest => .ready rest
  | .hung => .hung
  | .waiting count _ next => .waiting first (List.replicate (count + 1) none) next

/-- What a task starts when it stops. -/
def started : Stop σ ε α → List (Process σ ε α)
  | .ended _ => []
  | .paused _ => []
  | .hung => []
  | .waiting count child _ => Process.brood (count + 1) child

end Task.Stop

namespace Process

/-! ## What is still to be done -/

/-- What a stage amounts to for the measure: the results that a waiting process has collected do
not count. -/
inductive Rank (σ ε α : Type) where
  | ready (task : Task σ ε α)
  | waiting (next : List α → Task σ ε α)

end Process

/-- The rank of a stage, if it has one. -/
def Stage.ranks {σ ε α : Type} : Stage σ ε α → List (Process.Rank σ ε α)
  | .ready task => [.ready task]
  | .waiting _ _ next => [.waiting next]
  | .ended _ => []
  | .hung => []

namespace Process

variable {σ ε α : Type}

mutual

/-- The ranks in a process: those of its children, then its own. -/
def ranks : Process σ ε α → List (Rank σ ε α)
  | .node stage children => ranksAll children ++ stage.ranks

/-- The ranks in several processes. -/
def ranksAll : List (Process σ ε α) → List (Rank σ ε α)
  | [] => []
  | p :: rest => ranks p ++ ranksAll rest

end

/-- The ranks of what a stopped task leaves behind. -/
def Rank.left (stop : Task.Stop σ ε α) : List (Rank σ ε α) :=
  ranksAll stop.started ++ (stop.stage 0).ranks

/-- What may take the place of a rank: what a run leaves behind, and how a waiting process goes
on. -/
inductive Rank.Below : Rank σ ε α → Rank σ ε α → Prop where
  | left {task : Task σ ε α} {state : σ} {rank : Rank σ ε α}
      (h : rank ∈ Rank.left (task.advance state).1) : Below rank (.ready task)
  | next {next : List α → Task σ ε α} (values : List α) :
      Below (.ready (next values)) (.waiting next)
  | failed {next : List α → Task σ ε α} (e : ε) : Below (.ready (.fail e)) (.waiting next)

theorem ranksAll_append (ps qs : List (Process σ ε α)) :
    ranksAll (ps ++ qs) = ranksAll ps ++ ranksAll qs := by
  induction ps with
  | nil => rfl
  | cons p rest ih => rw [List.cons_append, ranksAll, ranksAll, ih, List.append_assoc]

/-- The ranks of children that are ready to run. -/
theorem ranksAll_brood (count : Nat) (child : Nat → Task σ ε α) :
    ranksAll (brood count child) = (List.range count).map fun i => .ready (child i) := by
  unfold brood
  induction List.range count with
  | nil => rfl
  | cons i rest ih =>
    rw [List.map_cons, List.map_cons, ranksAll, ih]
    rfl

namespace Rank

/-- A failed task leaves nothing behind. -/
theorem acc_fail (e : ε) : Acc Below (.ready (.fail e) : Rank σ ε α) :=
  .intro _ fun rank h => by
    cases h with
    | left h => cases h

/-- Everything that a run of a task leaves behind is accessible. -/
theorem acc_left (task : Task σ ε α) :
    ∀ state : σ, ∀ rank ∈ left (task.advance state).1, Acc Below rank := by
  induction task with
  | done outcome =>
    intro state rank h
    cases h
  | act update next ih =>
    intro state
    exact ih state (update state)
  | pause next ih =>
    intro state rank h
    have only : rank = .ready next := List.mem_singleton.1 h
    rw [only]
    exact .intro _ fun rank h => by
      cases h with
      | left h => exact ih _ rank h
  | hang =>
    intro state rank h
    cases h
  | gather count child next ihChild ihNext =>
    intro state rank h
    cases count with
    | zero => exact ihNext [] state rank h
    | succ count =>
      simp only [Task.advance, left, Task.Stop.started, Task.Stop.stage, Stage.ranks,
        ranksAll_brood, List.mem_append, List.mem_singleton, List.mem_map] at h
      rcases h with ⟨i, _, rfl⟩ | rfl
      · exact .intro _ fun rank h => by
          cases h with
          | left h => exact ihChild i _ rank h
      · refine .intro _ fun rank h => ?_
        cases h with
        | next values =>
          exact .intro _ fun rank h => by
            cases h with
            | left h => exact ihNext values _ rank h
        | failed e => exact acc_fail e

/-- Every ready task is accessible. -/
theorem acc_ready (task : Task σ ε α) : Acc Below (.ready task) :=
  .intro _ fun rank h => by
    cases h with
    | left h => exact acc_left task _ rank h

/-- **Ranks do not descend forever.** -/
theorem wellFounded_below : WellFounded (Below (σ := σ) (ε := ε) (α := α)) := by
  refine ⟨fun rank => ?_⟩
  cases rank with
  | ready task => exact acc_ready task
  | waiting next =>
    refine .intro _ fun rank h => ?_
    cases h with
    | next values => exact acc_ready _
    | failed e => exact acc_fail e

end Rank

/-- Replacing one process among several by another shrinks the ranks as it does alone. -/
theorem replaces_ranksAll {c c' : Process σ ε α} (h : Replaces Rank.Below c'.ranks c.ranks)
    (before after : List (Process σ ε α)) :
    Replaces Rank.Below (ranksAll (before ++ c' :: after)) (ranksAll (before ++ c :: after)) := by
  rw [ranksAll_append, ranksAll_append, ranksAll, ranksAll]
  exact (h.append_right _).append_left _

/-- **Putting a process at a later stage shrinks the ranks.** -/
theorem replaces_put {stage own : Stage σ ε α} {started children : List (Process σ ε α)}
    {rank : Rank σ ε α} (ranked : own.ranks = [rank])
    (small : ∀ r ∈ ranksAll started ++ stage.ranks, Rank.Below r rank) :
    ∀ {path : List Nat} {p : Process σ ε α}, p.at? path = some (.node own children) →
      Replaces Rank.Below (p.put stage started path).ranks p.ranks
  | [], p, h => by
    simp only [at?, Option.some.injEq] at h
    subst h
    refine ⟨ranksAll children, rank, [], ranksAll started ++ stage.ranks, ?_, ?_, small⟩
    · rw [ranks, ranked]
    · rw [put, ranks, ranksAll_append, List.append_nil, List.append_assoc]
  | i :: path, .node top siblings, h => by
    rw [at?] at h
    split at h
    · rename_i child hc
      obtain ⟨hi, rfl⟩ := List.getElem?_eq_some_iff.1 hc
      rw [put, ranks, ranks, List.modify_eq_take_cons_drop hi]
      have below := replaces_put ranked small h
      have around := replaces_ranksAll below (siblings.take i) (siblings.drop (i + 1))
      rw [List.getElem_cons_drop, List.take_append_drop] at around
      exact around.append_right _
    · cases h

/-- Putting a process at a stage of the same rank leaves the ranks alone. -/
theorem ranks_put {stage own : Stage σ ε α} {children : List (Process σ ε α)}
    (same : stage.ranks = own.ranks) :
    ∀ {path : List Nat} {p : Process σ ε α}, p.at? path = some (.node own children) →
      (p.put stage [] path).ranks = p.ranks
  | [], p, h => by
    simp only [at?, Option.some.injEq] at h
    subst h
    rw [put, ranks, ranks, List.append_nil, same]
  | i :: path, .node top siblings, h => by
    rw [at?] at h
    split at h
    · rename_i child hc
      obtain ⟨hi, rfl⟩ := List.getElem?_eq_some_iff.1 hc
      have below := ranks_put same h
      have split : siblings = siblings.take i ++ siblings[i] :: siblings.drop (i + 1) := by
        rw [List.getElem_cons_drop, List.take_append_drop]
      rw [put, ranks, ranks, List.modify_eq_take_cons_drop hi, ranksAll_append, ranksAll, below]
      conv => rhs; rw [split, ranksAll_append, ranksAll]
    · cases h

end Process

end CallTree
