/-
# CallTree.Proofs.Execution.Inputs — resolvers are only given sound inputs.

Whatever happens to a request, and however its resolvers behave: each resolver that is called is given
arguments that fit the contract of its field, and a value that is null at the top and else one that an
earlier call of the same request has returned for a field of the type, after that result has passed its
check (`Execution.safe_inputs`).
-/
import CallTree.Proofs.Execution.Moments
import CallTree.Proofs.Execution.Soundness
import CallTree.Proofs.Resolution.Inputs

namespace CallTree

namespace Execution

open Journal

/-- **Sound inputs.** Whenever a resolver is called, its arguments fit the contract of its field. A call
of a query is given null. A call of a field of a custom type is given a value other than null, which a
call of this request that has ended before has supplied: it has returned that value for a field of the
type, or a list that the value is an item of, and the result has passed its check. -/
theorem safe_inputs {r : Registry} {q : Request} {j : Journal} (moment : Moment r q j)
    {before rest : List Event} {c : Call} (starts : j.history = before ++ .started c :: rest) :
    r.Admits c ∧
      (c.owner = Registry.rootName ∧ c.data = .null ∨ r.hasType c.owner = true ∧
        ∃ p v, .ended p (.ok v) ∈ before ∧ r.Supplies p v c.owner c.data) ∧
      (r.hasType Registry.rootName = false → c.owner = Registry.rootName → c.data = .null) := by
  cases asks : q.source.read with
  | error f =>
    rw [moment.unread asks] at starts
    cases before <;> cases starts
  | ok n =>
    obtain ⟨once, ⟨left, accounts⟩, keeps⟩ := moment.seen asks
    obtain ⟨s, planned, rfl, after⟩ := keeps.ordered before c rest starts
    obtain ⟨admits, -, value⟩ := Unfolding.given_unfold n _ _ _ s planned
    have origin : s.call.owner = Registry.rootName ∧ s.call.data = .null ∨
        r.hasType s.call.owner = true ∧
          ∃ p v, .ended p (.ok v) ∈ before ∧ r.Supplies p v s.call.owner s.call.data := by
      refine value.imp_right ?_
      rintro ⟨declared, p, mem, v, known, supplies⟩
      -- The call has ended, and what is told of it is what it has come to.
      obtain ⟨outcome, ended⟩ := mem_endedIn.1 (after mem)
      have among : .ended p outcome ∈ j.history := by
        rw [starts]
        exact List.mem_append_left _ ended
      rw [tells_of_accounts once accounts p outcome among, Option.some.injEq] at known
      exact ⟨declared, p, v, known ▸ ended, supplies⟩
    refine ⟨admits, origin, fun reserved top => ?_⟩
    rcases origin with ⟨-, none⟩ | ⟨declared, -⟩
    · exact none
    · rw [top, reserved] at declared
      cases declared

/-- The viewer's identifier is asked of the person that the call before has returned. -/
theorem safe_inputs_viewer :
    ∃ j before c rest, Moment Example.registry { source := .call viewer } j ∧
      j.history = before ++ .started c :: rest ∧ c.path = [0] ∧ Example.registry.Admits c ∧
        ∃ p v, .ended p (.ok v) ∈ before ∧ Example.registry.Supplies p v c.owner c.data := by
  have reached : Moment Example.registry { source := .call viewer } _ := ⟨_, ⟨4, rfl⟩, rfl⟩
  have starts : (Lane.turn^[4]
      (Request.begun Example.registry { source := .call viewer })).1.state.history =
        [_, _] ++ .started ⟨"Person", "id", [0], [], Example.person (.text "123")⟩ :: _ := rfl
  obtain ⟨admits, ⟨top, -⟩ | ⟨-, supplied⟩, -⟩ := safe_inputs reached starts
  · exact absurd top (by decide)
  · exact ⟨_, _, _, _, reached, starts, rfl, admits, supplied⟩

end Execution

end CallTree
