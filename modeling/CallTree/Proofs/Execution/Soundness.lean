/-
# CallTree.Proofs.Execution.Soundness — successful answers conform to the declared types.

Whatever the resolvers of a registry do, and whenever they do it: if a request succeeds, its data is
shaped by its call tree and by the declared types (`Execution.sound`). What is said of nulls refers to
the journal of the request at the moment of its answer, of which the error list is a part.
-/
import CallTree.Example.People
import CallTree.Proofs.Context
import CallTree.Proofs.Execution.Alone
import CallTree.Proofs.Resolution.Conformance

namespace CallTree

namespace Execution

open Resolution

/-- **Soundness.** If a request succeeds, there is a journal of it, its error list is what is told of
the failures in the journal, and its data conforms to its call tree and to the declared types. -/
theorem sound {r : Registry} {q : Request} {n : Node} {data : Value} {errors : List (List String)}
    {calls : List Call} (asks : q.source.read = .ok n)
    (success : alone r q = some ⟨.success data errors, calls⟩) :
    ∃ j, journal r q = some j ∧ calls = j.calls ∧
      errors = Context.reports (Journal.failures j.history) ∧
      Conforms r j.history n Registry.rootName .null [] data := by
  rcases alone_inv success with ⟨outcome, updates, ends, journaled, same⟩ | ⟨x, j, -, same⟩
  · cases outcome with
    | error e => cases same
    | ok v =>
      cases same
      obtain ⟨updates', ends', perm⟩ := Request.ends_of_task asks ends
      have within := Scope.in_of r Registry.rootName .null
      have steps := ((inherited_acts r).resolve n _ [] within).of_ends ends' _ rfl
      obtain ⟨history, failures⟩ :=
        Journal.perform_adds (fun u mem => steps u (perm.mem_iff.1 mem)) q.journal
      have told : Journal.written updates' ⊆ (perform updates q.journal).history := by
        rw [history]
        exact Journal.written_subset perm.symm.subset
      refine ⟨_, journaled, rfl, ?_, sound_resolve r _ n _ [] _ updates' within ends' told⟩
      rw [Context.errors_eq, failures, history]
      rfl
  · cases same

/-- A request for the viewer with an identifier, asked for twice, and the friends; their administrator's
identifier only for those who are one. -/
def viewer : Node :=
  .mk "viewer" none [.leaf "id",
    .mk "friends" none [.leaf "isAdmin",
      .mk Node.whenName (some [("truthy", .list [.text "isAdmin"])]) [.leaf "adminId"]],
    .leaf "id"]

/-- What is known of the viewer. -/
def viewed : Value :=
  .single "viewer" (.object [("id", .text "123"),
    ("friends", .list [.object [("isAdmin", .bool false)],
      .object [("isAdmin", .bool true), ("adminId", .text "three")]])])

theorem success_viewer :
    ∃ calls, alone Example.registry { source := .call viewer } = some ⟨.success viewed [], calls⟩ := by
  have answer : alone Example.registry { source := .call viewer } = _ := alone_eq ⟨22, rfl⟩ (.inl rfl)
  obtain ⟨j, same, none⟩ : ∃ j, alone Example.registry { source := .call viewer } =
      some (Request.response (.ok viewed) j) ∧ j.context.failures = [] :=
    ⟨_, answer.trans rfl, rfl⟩
  exact ⟨j.calls, by rw [same, Request.response, Request.envelope, Context.errors_eq_nil none]⟩

theorem sound_viewer :
    ∃ j, journal Example.registry { source := .call viewer } = some j ∧
      Conforms Example.registry j.history viewer Registry.rootName .null [] viewed := by
  obtain ⟨calls, success⟩ := success_viewer
  obtain ⟨j, journaled, _, _, conforms⟩ := sound (n := viewer) rfl success
  exact ⟨j, journaled, conforms⟩

end Execution

end CallTree
