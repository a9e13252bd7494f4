/-
# CallTree.Proofs.Resolution.Replay — the timing of one run, kept for another.

What a resolver sees of its context may decide how long it takes. A registry can be made that takes its
time as another did in a given run (`Registry.replayed`): each look at the context is counted there, and
goes on from the context that was seen at the look of that number. Such a registry has the same types and
gives the same answers, and what a call tree resolves to on it, at any place, replays what it resolves to
on the first (`Resolution.replays_resolve`).
-/
import CallTree.Proofs.Resolution.Pairs
import CallTree.Proofs.Sequential.Relocation
import CallTree.Proofs.Task.Replay

namespace CallTree

/-! ## Registries that keep the time -/

/-- **A script that takes its time as it was seen to.** It counts its looks by the entries of the state, and
goes on from what was seen instead of what is there. -/
def Script.replayed (seen : Nat → Journal) : Script → Script
  | .done outcome => .done outcome
  | .pause rest => .pause (replayed seen rest)
  | .hang => .hang
  | .consult _ rest => .consult (fun context => ("", .null) :: context.state) fun context =>
      replayed seen (rest (seen context.state.length).context)

/-- A field with such a resolver. -/
def Field.replayed (seen : Nat → Journal) (f : Field) : Field :=
  { f with resolve := fun args data => (f.resolve args data).replayed seen }

/-- **A registry with such resolvers.** -/
def Registry.replayed (seen : Nat → Journal) (r : Registry) : Registry where
  types := r.types.mapValues fun chunk => chunk.mapValues (Field.replayed seen)
  root := r.root.mapValues (Field.replayed seen)

theorem Script.ComesTo.replayed {outcome : Except Failure Value} {s : Script} (h : s.ComesTo outcome)
    (seen : Nat → Journal) : (s.replayed seen).ComesTo outcome := by
  induction h with
  | done => exact .done
  | pause _ ih => exact .pause ih
  | consult _ ih => exact .consult fun context => ih _

namespace Registry

variable (seen : Nat → Journal) (r : Registry)

theorem get?_mapValues {α β : Type} (f : α → β) (t : Table α) (key : String) :
    (t.mapValues f).get? key = (t.get? key).map f :=
  Table.get?_mapEntries (fun _ => f) t key

/-- The fields of such a registry. -/
theorem field?_replayed (owner name : String) :
    (r.replayed seen).field? owner name = (r.field? owner name).map (Field.replayed seen) := by
  unfold field? chunk?
  split
  · exact get?_mapValues _ r.root name
  · rw [replayed, get?_mapValues]
    cases r.types.get? owner with
    | none => rfl
    | some chunk => exact get?_mapValues _ chunk name

theorem alike_replayed : r.Alike (r.replayed seen) where
  fields owner name := by
    rw [field?_replayed, Option.map_map]
    rfl
  types name := by
    rw [hasType, hasType, Table.has, Table.has, replayed, get?_mapValues, Option.isSome_map]

variable {r} in
theorem Gives.replayed {answers : Answers} (gives : r.Gives answers) :
    (r.replayed seen).Gives answers := by
  intro owner name f found args data
  rw [field?_replayed, Option.map_eq_some_iff] at found
  obtain ⟨f', found', rfl⟩ := found
  exact (gives owner name f' found' args data).replayed seen

end Registry

/-! ## Replays -/

namespace Task

variable {σ ε α : Type} {reads : (σ → σ) → Bool} {count : σ → Nat} {told : Nat → σ}

/-- Tasks start as many children, each of which is replayed. -/
theorem Replays.gatherAll {tasks tasks' : List (Task σ ε α)} {next next' : List α → Task σ ε α}
    (children : List.Forall₂ (Replays reads count told) tasks tasks')
    (rest : ∀ values, (next values).Replays reads count told (next' values)) :
    (gatherAll tasks next).Replays reads count told (.gatherAll tasks' next') := by
  unfold Task.gatherAll
  rw [children.length_eq]
  refine .gather ?_ rest
  intro i
  rw [List.getD_eq_getElem?_getD, List.getD_eq_getElem?_getD]
  have here := forall₂_getElem? children i
  generalize tasks[i]? = t, tasks'[i]? = t' at here
  cases here with
  | none => exact .hang
  | some child => exact child

theorem Replays.andThen {t t' : Task σ ε α} {k k' : α → Task σ ε α} (h : t.Replays reads count told t')
    (goesOn : ∀ a, (k a).Replays reads count told (k' a)) :
    (t.andThen k).Replays reads count told (t'.andThen k') := by
  induction h with
  | done outcome =>
    cases outcome with
    | ok a => exact goesOn a
    | error e => exact .done _
  | write blind quiet _ ih => exact .write blind quiet ih
  | read sees counts _ ih => exact .read sees counts ih
  | pause _ ih => exact .pause ih
  | hang => exact .hang
  | gather children _ _ ih => exact .gather children ih

end Task

namespace Journal

/-- Whether an update goes with a look at the context: nothing is logged. -/
def looks (update : Journal → Journal) : Bool := (update { context := {} }).history.isEmpty

/-- How many looks have been counted. -/
def counted (j : Journal) : Nat := j.context.state.length

end Journal

/-- **What a script leads to**, and what it leads to in its own time. -/
theorem Script.replays_run (s : Script) (seen : Nat → Journal) {call call' : Call}
    {next next' : Except Failure Value → Work}
    (goesOn : ∀ outcome, (next outcome).Replays Journal.looks Journal.counted seen (next' outcome)) :
    (s.run call next).Replays Journal.looks Journal.counted seen
      ((s.replayed seen).run call' next') := by
  induction s with
  | done outcome =>
    refine .write rfl ?_ fun _ _ => goesOn outcome
    intro j
    cases outcome <;> rfl
  | pause rest ih => exact .pause ih
  | hang => exact .hang
  | consult state rest ih => exact .read rfl (fun _ => rfl) fun j => ih _

namespace Resolution

open Journal

variable {r : Registry} {seen : Nat → Journal} {front : Path}

/-- Replays are kept by resolution. -/
theorem paired_replays (r : Registry) (seen : Nat → Journal) (front : Path) :
    Paired r (r.replayed seen) front (Task.Replays looks counted seen) where
  done := .done
  gatherAll := .gatherAll
  andThen := .andThen
  callField name args hasChildren owner data path _ _ replays := by
    rw [callField, callField, (Scope.in_of ..).get?, (Scope.in_of ..).get?, Registry.field?_replayed]
    -- Both look up the same field, and check the same of it.
    cases found : r.field? (Scope.of r owner data).owner name with
    | none =>
      have found' : (r.field? (Scope.of (r.replayed seen) owner data).owner name) = none := found
      rw [found']
      exact .done _
    | some f =>
      have found' : (r.field? (Scope.of (r.replayed seen) owner data).owner name) = some f := found
      have checks : checkCall (r.replayed seen) name args (f.replayed seen) = checkCall r name args f :=
        Sequential.checkCall_congr (r.alike_replayed seen) rfl rfl
      rw [found', Option.map_some]
      simp only
      rw [checks]
      cases checkCall r name args f with
      | error e => exact .done _
      | ok _ =>
        refine .write rfl (fun _ => rfl) fun _ _ => Script.replays_run _ seen ?_
        intro outcome
        split
        · exact .done _
        · exact replays f found _

/-- **What a call tree resolves to** at a place further down is replayed by what it resolves to on a
registry that keeps the time. -/
theorem replays_resolve (n : Node) (owner : String) (data : Value) (path : Path) :
    (resolve r n (.of r owner data) (front ++ path)).Replays looks counted seen
      (resolve (r.replayed seen) n (.of (r.replayed seen) owner data) path) :=
  (paired_replays r seen front).resolve n owner data path

end Resolution

end CallTree
