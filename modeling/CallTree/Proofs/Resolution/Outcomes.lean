/-
# CallTree.Proofs.Resolution.Outcomes — the outcomes in a history are those of resolvers.

A script may come to several outcomes, depending on what it sees (`Script.MayGive`). Whenever a call has
ended, it has come to one of those that the resolver of its field may come to
(`Resolution.written_mayGive`).
-/
import CallTree.Proofs.Resolution.Inherited
import CallTree.Proofs.Resolution.Scripts
import CallTree.Proofs.Task.Standing

namespace CallTree

open Journal

/-- **What a script may come to**, by what it sees. -/
inductive Script.MayGive (outcome : Except Failure Value) : Script → Prop where
  | done : MayGive outcome (.done outcome)
  | pause {next : Script} (rest : MayGive outcome next) : MayGive outcome (.pause next)
  | consult {state : Context → Table Value} {next : Context → Script} (context : Context)
      (rest : MayGive outcome (next context)) : MayGive outcome (.consult state next)

/-- A script that comes to one outcome, whatever it sees, may come to no other. -/
theorem Script.MayGive.eq_of_comesTo {outcome outcome' : Except Failure Value} {s : Script}
    (h : s.MayGive outcome') (comesTo : s.ComesTo outcome) : outcome' = outcome := by
  induction h with
  | done =>
    cases comesTo
    rfl
  | pause _ ih =>
    cases comesTo with
    | pause rest => exact ih rest
  | consult context _ ih =>
    cases comesTo with
    | consult rest => exact ih (rest context)

/-- What the resolver of a call may come to. -/
def Registry.MayGive (r : Registry) (c : Call) (outcome : Except Failure Value) : Prop :=
  ∃ f, r.field? c.owner c.field = some f ∧ (f.resolve c.args c.data).MayGive outcome

/-- An update that ends calls only with outcomes of a kind. -/
def Journal.EndsOnly (P : Call → Except Failure Value → Prop) (u : Journal → Journal) : Prop :=
  ∀ c outcome, .ended c outcome ∈ written [u] → P c outcome

theorem Script.acts_endsOnly {P : Call → Except Failure Value → Prop} {call : Call} {s : Script}
    (gives : ∀ outcome, s.MayGive outcome → P call outcome) {next : Except Failure Value → Work}
    (goesOn : ∀ outcome, (next outcome).Acts (EndsOnly P)) :
    (s.run call next).Acts (EndsOnly P) := by
  induction s with
  | done outcome =>
    refine .act ?_ fun _ => goesOn outcome
    rintro c _ mem
    cases List.mem_singleton.1 mem
    exact gives outcome .done
  | pause rest ih => exact .pause (ih fun outcome may => gives outcome (.pause may))
  | hang => exact .hang
  | consult state rest ih =>
    exact .act nofun fun j => ih j.context fun outcome may => gives outcome (.consult j.context may)

namespace Resolution

theorem inherited_mayGive (r : Registry) : Inherited r (Task.Acts (EndsOnly r.MayGive)) where
  done := .done
  gatherAll := .gatherAll
  andThen := .andThen
  call call f found _ goesOn := by
    refine .act ?_ fun _ => Script.acts_endsOnly (fun outcome may => ⟨f, found, may⟩) goesOn
    intro c outcome mem
    cases List.mem_singleton.1 mem

/-- **Every outcome in a history** is one that the resolver of the call may come to. -/
theorem written_mayGive {r : Registry} {n : Node} {scope : Scope} {path : Path} (within : scope.In r)
    {standing : Standing Abort Value} {updates : List (Journal → Journal)}
    (stands : (resolve r n scope path).Stands standing updates) {c : Call}
    {outcome : Except Failure Value} (ended : .ended c outcome ∈ written updates) :
    r.MayGive c outcome := by
  obtain ⟨u, hu, here⟩ := List.mem_flatMap.1 ended
  have only := ((inherited_mayGive r).resolve n scope path within).of_stands stands u hu
  exact only c outcome (List.mem_flatMap.2 ⟨u, List.mem_singleton.2 rfl, here⟩)

end Resolution

end CallTree
