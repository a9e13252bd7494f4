/-
# CallTree.Proofs.Resolution.Extension — registries that grow.

A registry is within another (`Registry.Within`) if all its types, fields and queries are found there
unchanged, wherever they stand in the tables. Resolution looks names up and does nothing else with a
registry, so what a call tree resolves to in the first is below what it resolves to in the second
(`Resolution.below_resolve`): up to the first fault, both do the same.
-/
import CallTree.Proofs.Resolution.Inherited
import CallTree.Proofs.Resolution.Pairs
import CallTree.Proofs.Task.Extension

namespace CallTree

/-- All entries of a table are found in another, wherever they stand there. -/
def Table.Within {α : Type} (t u : Table α) : Prop :=
  ∀ key v, t.get? key = some v → u.get? key = some v

/-- A table is within itself with a new entry in front. -/
theorem Table.within_cons {α : Type} {t : Table α} {key : String} (v : α)
    (new : t.has key = false) : t.Within ((key, v) :: t) := by
  intro other w found
  rw [Table.get?]
  split
  · rename_i same
    rw [Table.has, same, found] at new
    cases new
  · exact found

/-- **`r.Within r'`** — everything that is declared in `r` is declared in `r'`, and is the same there.
There may be more types in `r'`, more fields of the types that `r` has, and more queries. -/
structure Registry.Within (r r' : Registry) : Prop where
  types : ∀ name chunk, r.types.get? name = some chunk →
    ∃ chunk', r'.types.get? name = some chunk' ∧ chunk.Within chunk'
  root : r.root.Within r'.root

namespace Registry.Within

variable {r r' : Registry}

/-- Whatever field is found in the first is found in the second. -/
theorem field? (within : r.Within r') {owner name : String} {f : Field}
    (found : r.field? owner name = some f) : r'.field? owner name = some f := by
  unfold Registry.field? chunk? at *
  split at found
  · rename_i top
    rw [if_pos top]
    exact within.root name f found
  · rename_i other
    rw [if_neg other]
    cases declared : r.types.get? owner with
    | none =>
      rw [declared] at found
      cases found
    | some chunk =>
      rw [declared] at found
      obtain ⟨chunk', declared', fields⟩ := within.types owner chunk declared
      rw [declared']
      exact fields name f found

/-- Whatever type is declared in the first is declared in the second. -/
theorem hasType (within : r.Within r') {name : String} (declared : r.hasType name = true) :
    r'.hasType name = true := by
  obtain ⟨chunk, found⟩ := Option.isSome_iff_exists.1 declared
  obtain ⟨chunk', found', -⟩ := within.types name chunk found
  rw [Registry.hasType, Table.has, found']
  rfl

end Registry.Within

/-- What a script leads to, where the ways on are below one another. -/
theorem Script.below_run (s : Script) (call : Call) {next next' : Except Failure Value → Work}
    (goesOn : ∀ outcome, (next outcome).Below (next' outcome)) :
    (s.run call next).Below (s.run call next') := by
  induction s with
  | done outcome => exact .act fun _ => goesOn outcome
  | pause rest ih => exact .pause ih
  | hang => exact .hang
  | consult state rest ih => exact .act fun j => ih j.context

namespace Resolution

variable {r r' : Registry}

/-- A call that passes its checks in the first registry passes them in the second. -/
theorem checkCall_within (within : r.Within r') {name : String} {args : Option (Table Value)}
    {f : Field} (passes : checkCall r name args f = .ok ()) : checkCall r' name args f = .ok () := by
  unfold checkCall Check.declared at *
  split at passes
  · cases passes
  · split at passes
    · rename_i native
      rw [if_pos native]
    · rename_i custom
      rw [if_neg custom]
      split at passes
      · rename_i declared
        rw [if_pos (within.hasType declared)]
        rfl
      · cases passes

/-- Tasks that are below one another are kept so by resolution. -/
theorem paired_below (within : r.Within r') : Paired r r' [] Task.Below where
  done outcome := .refl (.done outcome)
  gatherAll := .gatherAll
  andThen := .andThen
  callField name args hasChildren owner data path _ _ below := by
    rw [callField, callField, (Scope.in_of ..).get?, (Scope.in_of ..).get?]
    -- A name that is not found, or a check that fails, is where the larger registry may do more.
    cases found : r.field? (Scope.of r owner data).owner name with
    | none => exact .fail _ _
    | some f =>
      have found' : r'.field? (Scope.of r' owner data).owner name = some f := within.field? found
      rw [found']
      simp only
      cases passes : checkCall r name args f with
      | error e => exact .fail _ _
      | ok _ =>
        rw [checkCall_within within passes]
        refine .act fun _ => Script.below_run _ _ ?_
        intro outcome
        split
        · exact .refl _
        · exact below f found _

/-- **What a call tree resolves to** in a registry is below what it resolves to in a larger one. -/
theorem below_resolve (within : r.Within r') (n : Node) (owner : String) (data : Value) (path : Path) :
    (resolve r n (.of r owner data) path).Below (resolve r' n (.of r' owner data) path) :=
  (paired_below within).resolve n owner data path

end Resolution

end CallTree
