/-
# CallTree.Proofs.Execution.Extension — what was asked of a registry can be asked of a larger one.

If a request succeeds on a registry, it succeeds on every registry that has everything of the first and
more besides, with the same resolver calls in the same order and with the same envelope
(`Execution.extension_safe`). Nothing is promised of a request that fails: a name that was unknown may
have become a field.
-/
import CallTree.Proofs.Execution.Soundness
import CallTree.Proofs.Execution.Termination
import CallTree.Proofs.Resolution.Extension

namespace CallTree

namespace Request

variable {r r' : Registry}

/-- **A request of which the limit may be up soon.** -/
def Hurried (q : Request) : Prop := ∃ x, Limit.seconds q.limit = .ok x ∧ Limit.kind x = .atOnce

/-- A resolution under a time limit, in two registries. -/
theorem below_limited {resolution resolution' : Work} (below : resolution.Below resolution') {q : Request}
    (unhurried : ¬ q.Hurried) : (limited q.limit resolution).Below (limited q.limit resolution') := by
  unfold limited
  split
  · exact below
  · split
    · exact .refl _
    · rename_i x number
      split
      · exact .refl _
      · rename_i atOnce
        exact absurd ⟨x, number, atOnce⟩ unhurried
      · exact .gatherAll (.cons below .nil) fun _ => .refl _

/-- **A request** on a registry does what it does on a larger one, up to the first fault. -/
theorem below_task (within : r.Within r') {q : Request} (unhurried : ¬ q.Hurried) :
    (q.task r).Below (q.task r') := by
  unfold task
  split
  · exact .refl _
  · rename_i n _
    exact below_limited (Resolution.below_resolve within n Registry.rootName .null []) unhurried

end Request

namespace Execution

/-- **A request that has succeeded before its limit was up soon** does so on a larger registry. -/
theorem extension_of_hurried {r r' : Registry} (within : r.Within r') {q : Request} (hurried : q.Hurried)
    {data : Value} {errors : List (List String)} {calls : List Call}
    (success : alone r q = some ⟨.success data errors, calls⟩) :
    alone r' q = some ⟨.success data errors, calls⟩ ∧ journal r' q = journal r q := by
  obtain ⟨x, number, atOnce⟩ := hurried
  cases asks : q.source.read with
  | error f => cases success.symm.trans (alone_of_unread asks)
  | ok n =>
    have ended := advance_of_atOnce (r := r) asks number atOnce
    have ended' := advance_of_atOnce (r := r') asks number atOnce
    have below := Resolution.below_resolve within n Registry.rootName .null []
    rw [alone_of_ended ended] at success
    cases early : ((Request.resolution r n).early q.journal).1 with
    | none =>
      rw [early] at success
      cases success
    | some outcome =>
      cases outcome with
      | error e =>
        rw [early] at success
        cases success
      | ok v =>
        have same := below.early (Prod.ext early rfl)
        rw [same] at ended'
        rw [early] at ended success
        exact ⟨(alone_of_ended ended').trans success,
          (journal_of_ended ended').trans (journal_of_ended ended).symm⟩

/-- **Extension.** Whatever a request is answered with on a registry, if it is a success: the same calls
are made on a larger registry, with the same arguments and the same values above, in the same order,
they come to the same, and the envelope is the same. -/
theorem extension_safe {r r' : Registry} (within : r.Within r') {q : Request} {data : Value}
    {errors : List (List String)} {calls : List Call}
    (success : alone r q = some ⟨.success data errors, calls⟩) :
    alone r' q = some ⟨.success data errors, calls⟩ ∧ journal r' q = journal r q := by
  by_cases hurried : q.Hurried
  · exact extension_of_hurried within hurried success
  obtain ⟨y, run, -, same, journaled⟩ := exists_run r q
  rw [same] at success
  rcases Request.respond_inv success with ⟨a, answer, told⟩ | ⟨-, x, -, -, told⟩
  · obtain ⟨v, ok⟩ : ∃ v, a.outcome = .ok v := by
      cases outcome : a.outcome with
      | ok v => exact ⟨v, rfl⟩
      | error e =>
        rw [outcome] at told
        cases told
    obtain ⟨y', run', answer'⟩ := run.transfer (Request.below_task within hurried) answer ok
    have finished' : Lane.Finished y' := .inl (by rw [answer']; rfl)
    refine ⟨?_, ?_⟩
    · rw [alone_eq run' finished', Request.respond, answer', told]
    · rw [journal_eq run' finished', journaled, answer, answer']
  · -- A request that is not answered is out of time, which is no success.
    cases told

/-- The people, with another type, another field of a person, and another query, each before what was
there. -/
def grown : Registry where
  types := [("Badge", []), ("Person",
    Example.field "badge" (.ofName false "Badge") (Example.required "badge") :: Example.personChunk)]
  root := Example.field "badges" (.ofName true "Badge") (Example.required "badges") :: Example.queries

theorem within_grown : Example.registry.Within grown where
  types name chunk found := by
    simp only [Example.registry, Table.get?] at found
    split at found
    · rename_i same
      cases found
      exact ⟨_, by rw [← same]; rfl, Table.within_cons _ (by decide)⟩
    · cases found
  root := Table.within_cons _ (by decide)

theorem extension_safe_viewer : ∃ calls,
    alone Example.registry { source := .call viewer } = some ⟨.success viewed [], calls⟩ ∧
      alone grown { source := .call viewer } = some ⟨.success viewed [], calls⟩ := by
  obtain ⟨calls, success⟩ := success_viewer
  exact ⟨calls, success, (extension_safe within_grown success).1⟩

end Execution

end CallTree
