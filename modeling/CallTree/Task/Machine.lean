/-
# CallTree.Task.Machine — tasks of several lanes, run one at a time in a fixed order.

A machine runs one root task per lane; a lane is a state that the processes below one root share.
What is due next stands in a queue that all lanes share, first come first served:

* a process that is due runs until it stops. If it pauses, it is due again after everything that is
  already in the queue. If it waits for children, these become due, in their order;
* when a child ends, a report to its parent is due. The report that completes the results of a
  waiting parent, or the first that tells of a failure, makes the parent due; later ones are void;
* when a root ends, its lane is answered with the outcome and the state at that moment.

A failed parent does not stop its other children: they run on until the machine stops. It stops when
every lane is answered or nothing is due. The second happens only if something hangs.

Every turn puts a process at a later stage or leaves the processes as they are and shortens the
queue (`Machine.closer_turn`), so a machine always stops, whatever its tasks do.

The lanes of a machine start together (`start`), or one after the other, each when the one before is
answered (`serve`).
-/
import CallTree.Task.Process

namespace CallTree

/-- What is due in a lane. -/
inductive Due where
  /-- The process at a path is to run. -/
  | run (path : List Nat)
  /-- A child has ended, which its parent is to be told. -/
  | report (parent : List Nat) (slot : Nat)

/-- The answer of a lane: the outcome of its root, and the state at that moment. -/
structure Answer (σ ε α : Type) where
  outcome : Except ε α
  state : σ

/-- **`Lane σ ε α`** — the processes below one root, with the state that they share. -/
structure Lane (σ ε α : Type) where
  state : σ
  root : Process σ ε α
  answer : Option (Answer σ ε α) := none

namespace Lane

variable {σ ε α : Type}

/-- A lane in which nothing has run. -/
def fresh (task : Task σ ε α) (state : σ) : Lane σ ε α := { state, root := .fresh task }

/-- Put the process at a path at a stage, and add to its children. -/
def put (l : Lane σ ε α) (path : List Nat) (stage : Stage σ ε α)
    (started : List (Process σ ε α)) : Lane σ ε α :=
  { l with root := l.root.put stage started path }

/-- Let the process at a path go on with a task. -/
def wake (l : Lane σ ε α) (path : List Nat) (task : Task σ ε α) : Lane σ ε α × List Due :=
  (l.put path (.ready task) [], [.run path])

/-- What is due when the process at a path has stopped, which has started so many children
before. -/
def dueAfter (path : List Nat) (first : Nat) : Task.Stop σ ε α → List Due
  | .ended _ =>
    match path.getLast? with
    | none => []
    | some slot => [.report path.dropLast slot]
  | .paused _ => [.run path]
  | .hung => []
  | .waiting count _ _ => (List.range (count + 1)).map fun i => .run (path ++ [first + i])

/-- Take note of how the process at a path stopped, which has started so many children before. The
second part is what becomes due. -/
def settle (l : Lane σ ε α) (path : List Nat) (first : Nat) (stop : Task.Stop σ ε α) :
    Lane σ ε α × List Due :=
  ({ l.put path (stop.stage first) stop.started with
      answer :=
        if path = [] then stop.outcome?.map fun outcome => ⟨outcome, l.state⟩ else l.answer },
    dueAfter path first stop)

/-- The values of a list in which nothing is missing. -/
def complete? : List (Option α) → Option (List α)
  | [] => some []
  | none :: _ => none
  | some a :: rest => (complete? rest).map (a :: ·)

/-- Tell a process that one of its children has ended. It is void if the process does not wait for
that child. -/
def tell (l : Lane σ ε α) (parent : List Nat) (slot : Nat) : Lane σ ε α × List Due :=
  match l.root.at? parent with
  | some (.node (.waiting first results next) children) =>
    if slot < first then (l, [])
    else
      match children[slot]?.map Process.stage with
      | some (.ended (.error e)) => l.wake parent (.fail e)
      | some (.ended (.ok a)) =>
        match complete? (results.set (slot - first) (some a)) with
        | some values => l.wake parent (next values)
        | none =>
          (l.put parent (.waiting first (results.set (slot - first) (some a)) next) [], [])
      | _ => (l, [])
  | _ => (l, [])

/-- **Do what is due** in a lane. The second part is what becomes due by it. -/
def handle (l : Lane σ ε α) : Due → Lane σ ε α × List Due
  | .run path =>
    match l.root.at? path with
    | some (.node (.ready task) children) =>
      { l with state := (task.advance l.state).2 }.settle path children.length
        (task.advance l.state).1
    | _ => (l, [])
  | .report parent slot => l.tell parent slot

end Lane

/-- **`Machine n σ ε α`** — `n` lanes of concurrent work. -/
structure Machine (n : Nat) (σ ε α : Type) where
  lanes : Vector (Lane σ ε α) n
  queue : List (Fin n × Due)

namespace Machine

variable {n : Nat} {σ ε α : Type}

/-- A machine in which nothing is due: one root task and one state per lane. -/
def idle (roots : Vector (Task σ ε α × σ) n) : Machine n σ ε α :=
  { lanes := roots.map fun root => .fresh root.1 root.2, queue := [] }

/-- A machine before its first turn: all roots are due, in the order of their lanes. -/
def start (roots : Vector (Task σ ε α × σ) n) : Machine n σ ε α :=
  { idle roots with queue := (List.finRange n).map fun lane => (lane, .run []) }

/-- Whether every lane is answered. -/
def isAnswered (m : Machine n σ ε α) : Bool := m.lanes.all (·.answer.isSome)

/-- Do what is due in a lane, as the first of the queue. -/
def handle (m : Machine n σ ε α) (lane : Fin n) (due : Due) (rest : List (Fin n × Due)) :
    Machine n σ ε α :=
  { lanes := m.lanes.set lane (m.lanes[lane].handle due).1
    queue := rest ++ (m.lanes[lane].handle due).2.map fun due => (lane, due) }

/-- **One turn**: what is first in the queue, unless the machine has stopped. -/
def turn? (m : Machine n σ ε α) : Option (Machine n σ ε α) :=
  if m.isAnswered then none
  else
    match m.queue with
    | [] => none
    | (lane, due) :: rest => some (m.handle lane due rest)

/-! ## Every machine stops -/

/-- The ranks in all lanes. -/
def ranks (m : Machine n σ ε α) : List (Process.Rank σ ε α) :=
  Process.ranksAll (m.lanes.toList.map Lane.root)

/-- The order in which machines come closer to their end: the ranks shrink, or they stay and the
queue gets shorter. -/
def Closer (m' m : Machine n σ ε α) : Prop :=
  Prod.Lex (Replaces Process.Rank.Below) (· < ·) (m'.ranks, m'.queue.length)
    (m.ranks, m.queue.length)

theorem wellFounded_closer : WellFounded (Closer (n := n) (σ := σ) (ε := ε) (α := α)) :=
  InvImage.wf _
    (Prod.lex ⟨_, Replaces.wellFounded Process.Rank.wellFounded_below⟩ Nat.lt_wfRel).wf

end Machine

/-- The order in which lanes come closer to their end, with what becomes due on the way. -/
def Lane.Closer {σ ε α : Type} (l' : Lane σ ε α × List Due) (l : Lane σ ε α) : Prop :=
  Replaces Process.Rank.Below l'.1.root.ranks l.root.ranks ∨
    l'.1.root.ranks = l.root.ranks ∧ l'.2 = []

namespace Lane

variable {σ ε α : Type}

/-- Waking a waiting process comes closer to the end. -/
theorem closer_wake {l : Lane σ ε α} {parent : List Nat} {first : Nat}
    {results : List (Option α)} {next : List α → Task σ ε α} {children : List (Process σ ε α)}
    (waits : l.root.at? parent = some (.node (.waiting first results next) children))
    {task : Task σ ε α} (below : Process.Rank.Below (.ready task) (.waiting next)) :
    Closer (l.wake parent task) l := by
  have ranked : (Stage.waiting first results next).ranks = [Process.Rank.waiting next] := rfl
  refine .inl (Process.replaces_put ranked ?_ waits)
  intro r hr
  simp only [Process.ranksAll, Stage.ranks, List.nil_append, List.mem_singleton] at hr
  rw [hr]
  exact below

/-- Telling a process that a child has ended comes closer to the end. -/
theorem closer_tell (l : Lane σ ε α) (parent : List Nat) (slot : Nat) :
    Closer (l.tell parent slot) l := by
  have void : Closer (l, []) l := .inr ⟨rfl, rfl⟩
  unfold tell
  split
  · rename_i first results next children waits
    split
    · exact void
    · split
      · exact closer_wake waits (.failed _)
      · split
        · exact closer_wake waits (.next _)
        · exact .inr ⟨Process.ranks_put (by rfl) waits, rfl⟩
      · exact void
  · exact void

/-- A run of a ready process comes closer to the end. -/
theorem closer_settle {l l' : Lane σ ε α} {path : List Nat} {task : Task σ ε α}
    {children : List (Process σ ε α)} (state : σ) (first : Nat)
    (runs : l.root.at? path = some (.node (.ready task) children)) (root : l'.root = l.root) :
    Closer (l'.settle path first (task.advance state).1) l := by
  left
  have same : ((task.advance state).1.stage first).ranks = ((task.advance state).1.stage 0).ranks := by
    cases (task.advance state).1 <;> rfl
  simp only [settle, put, root]
  refine Process.replaces_put rfl ?_ runs
  rw [same]
  exact fun r hr => .left hr

/-- **Whatever is done in a lane brings it closer to its end**, or is void. -/
theorem closer_handle (l : Lane σ ε α) (due : Due) : Closer (l.handle due) l := by
  cases due with
  | run path =>
    simp only [handle]
    split
    · rename_i task children runs
      exact closer_settle _ _ runs rfl
    · exact .inr ⟨rfl, rfl⟩
  | report parent slot => exact closer_tell l parent slot

end Lane

namespace Machine

variable {n : Nat} {σ ε α : Type}

/-- **Every turn comes closer to the end.** -/
theorem closer_turn {m m' : Machine n σ ε α} (h : m.turn? = some m') : Closer m' m := by
  unfold turn? at h
  split at h
  · cases h
  · split at h
    · cases h
    · rename_i lane due rest queue
      simp only [Option.some.injEq] at h
      subst h
      have bound : (lane : Nat) < (m.lanes.toList.map Lane.root).length := by simp
      have after : (m.handle lane due rest).ranks = Process.ranksAll
          ((m.lanes.toList.map Lane.root).take lane ++ (m.lanes[lane].handle due).1.root ::
            (m.lanes.toList.map Lane.root).drop (lane + 1)) := by
        rw [ranks, handle, Vector.toList_set, List.map_set, List.set_eq_take_append_cons_drop,
          if_pos bound]
      have before : m.ranks = Process.ranksAll
          ((m.lanes.toList.map Lane.root).take lane ++ m.lanes[lane].root ::
            (m.lanes.toList.map Lane.root).drop (lane + 1)) := by
        have entry : (m.lanes.toList.map Lane.root)[(lane : Nat)] = m.lanes[lane].root := by simp
        rw [ranks, ← entry, List.getElem_cons_drop, List.take_append_drop]
      unfold Closer
      rw [after, before]
      rcases Lane.closer_handle m.lanes[lane] due with less | ⟨same, void⟩
      · exact .left _ _ (Process.replaces_ranksAll less _ _)
      · rw [Process.ranksAll_append, Process.ranksAll_append, Process.ranksAll, Process.ranksAll,
          same]
        refine .right _ ?_
        rw [handle, void, queue]
        simp

instance : WellFoundedRelation (Machine n σ ε α) := ⟨Closer, wellFounded_closer⟩

/-- **Run** a machine until it stops. -/
def run (m : Machine n σ ε α) : Machine n σ ε α :=
  match _turned : m.turn? with
  | none => m
  | some m' => run m'
termination_by m
decreasing_by exact closer_turn _turned

/-- A machine that has stopped is left as it is. -/
theorem run_of_turn?_eq_none {m : Machine n σ ε α} (stopped : m.turn? = none) : m.run = m := by
  rw [run]
  split
  · rfl
  · rename_i h
    simp [stopped] at h

/-- A run goes on with the next turn. -/
theorem run_of_turn?_eq_some {m m' : Machine n σ ε α} (turned : m.turn? = some m') :
    m.run = m'.run := by
  rw [run]
  split
  · rename_i h
    simp [turned] at h
  · rename_i h
    simp only [turned, Option.some.injEq] at h
    rw [h]

/-! ## One lane after the other -/

/-- Run a machine until a lane is answered or the machine stops. -/
def runUntil (lane : Fin n) (m : Machine n σ ε α) : Machine n σ ε α :=
  if m.lanes[lane].answer.isSome then m
  else
    match _turned : m.turn? with
    | none => m
    | some m' => runUntil lane m'
termination_by m
decreasing_by exact closer_turn _turned

/-- Make the root of a lane due, before everything else. -/
def release (m : Machine n σ ε α) (lane : Fin n) : Machine n σ ε α :=
  { m with queue := (lane, .run []) :: m.queue }

/-- **Serve** lanes one after the other: a lane starts when the one before it is answered. What an
answered lane has left in the queue runs on beside the next. -/
def serve : List (Fin n) → Machine n σ ε α → Machine n σ ε α
  | [], m => m
  | lane :: rest, m =>
    let m := (m.release lane).runUntil lane
    if m.lanes[lane].answer.isSome then serve rest m else m

end Machine

end CallTree
