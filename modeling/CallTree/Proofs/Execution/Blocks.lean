/-
# CallTree.Proofs.Execution.Blocks — conditional blocks do not matter beside the calls that they admit.

The children of a call on a value are work of their own. `Settles` says of such work that it comes to
one value, whatever runs when. When it does, the conditional blocks among the children can be
eliminated: the calls in the blocks that hold of what the real children give, put after the real
children, come to the same (`Execution.blocks_eliminated`).
-/
import CallTree.Proofs.Execution.Schedules
import CallTree.Proofs.Sequential.Blocks

namespace CallTree

open Journal CallTree.Sequential

/-- **Work that settles on a value**: it can come to nothing else, with these entries in the failure log
in some order, and whenever it is run to its end, in whatever journal, it comes to that. -/
structure Settles (t : Work) (v : Value) (told : List (List String)) : Prop where
  only : ∀ outcome updates, t.Ends outcome updates →
    outcome = .ok v ∧ (reported (written updates)).Perm told
  answered : ∀ (j : Journal) (y : Lane Journal Abort Value × List Due),
    Lane.Reaches (Lane.begun t j) y → Lane.Finished y →
      ∃ (after : Journal) (failed : List FailedCall), y.1.answer = some ⟨.ok v, after⟩ ∧
        after.context.failures = j.context.failures ++ failed ∧
        (failed.map FailedCall.told).Perm told

/-- **Work that comes to a value only** comes to it whenever it is run to its end, and adds to the failure
log of whatever journal what it adds in all its runs. -/
theorem answered_of_only {t : Work} {v : Value} {P : List FailedCall → Prop} (lively : t.Lively)
    (acts : t.Acts Journal.Step)
    (only : ∀ outcome updates, t.Ends outcome updates →
      outcome = .ok v ∧ P (failures (written updates))) {j : Journal}
    {y : Lane Journal Abort Value × List Due} (reaches : Lane.Reaches (Lane.begun t j) y)
    (finished : Lane.Finished y) : ∃ (after : Journal) (failed : List FailedCall),
      y.1.answer = some ⟨.ok v, after⟩ ∧
        after.context.failures = j.context.failures ++ failed ∧ P failed := by
  obtain ⟨⟨outcome, after⟩, answer⟩ :=
    Option.isSome_iff_exists.1 (reaches.answered lively finished)
  obtain ⟨updates, state, ends⟩ := reaches.ends answer
  obtain ⟨rfl, holds⟩ := only _ _ ends
  have steps := acts.of_ends ends v rfl
  refine ⟨after, failures (written updates), answer, ?_, holds⟩
  rw [show after = _ from state]
  exact (perform_adds steps j).2

theorem Settles.intro {t : Work} {v : Value} {told : List (List String)} (lively : t.Lively)
    (acts : t.Acts Journal.Step)
    (only : ∀ outcome updates, t.Ends outcome updates →
      outcome = .ok v ∧ (reported (written updates)).Perm told) : Settles t v told where
  only := only
  answered _ _ reaches finished :=
    answered_of_only (P := fun failed => (failed.map FailedCall.told).Perm told) lively acts only reaches
      finished

theorem Settles.perm {t : Work} {v : Value} {told told' : List (List String)} (h : Settles t v told)
    (same : told.Perm told') : Settles t v told' where
  only outcome updates ends := ⟨(h.only outcome updates ends).1, (h.only outcome updates ends).2.trans same⟩
  answered j y reaches finished := by
    obtain ⟨after, failed, answer, added, perm⟩ := h.answered j y reaches finished
    exact ⟨after, failed, answer, added, perm.trans same⟩

namespace Execution

variable {r r' : Registry} {answers : Answers} {owner : String} {data : Value} {path : Path}

/-- The children of a call meet their evaluation. -/
theorem meets_below (gives : r.Gives answers) (ns : List Node) (owner : String) (data : Value)
    (path : Path) : Meets (Resolution.resolveBelow r ns (.of r owner data) path)
      (evaluateBelow .all r answers ns owner data path) := by
  have within := Scope.in_of r owner data
  exact meets_resolveBelow (fun c _ path => meets_resolve gives c (.of r owner data) path within)
    fun _ _ c _ path => meets_resolve gives c (.of r owner data) path within

/-- The children of a call settle on what their evaluation gives. -/
theorem settles_below (gives : r.Gives answers) {ns : List Node} {w : Value}
    {told : List (List String)}
    (found : (evaluateBelow .all r answers ns owner data path).told = .ok (w, told)) :
    Settles (Resolution.resolveBelow r ns (.of r owner data) path) w told := by
  obtain ⟨log, evaluated, rfl⟩ := Verdict.told_eq_ok_iff.1 found
  refine .intro ?_ ?_ ?_
  · exact (Resolution.inherited_lively gives.lively).below ns owner data path
  · exact (Resolution.inherited_acts r).below ns owner data path
  · intro outcome updates ends
    have allows := meets_below gives ns owner data path outcome updates ends
    rw [evaluated] at allows
    cases outcome with
    | ok a =>
      obtain ⟨own, same, perm⟩ := allows
      cases same
      exact ⟨rfl, reported_perm perm⟩
    | error e =>
      obtain ⟨es, same, -⟩ := allows
      cases same

/-- **Conditional blocks, eliminated.** When the children of a call on a value succeed, so do the real
children alone, in whatever way resolvers let others run, and every block can be asked about the object
that these come to. The real children with the calls of the blocks that hold of that object behind them
are free of blocks, and come to the same object as the children, with the same failures in some order;
and so does every list of children with the same real ones and the same blocks. -/
theorem blocks_eliminated (gives : r.Gives answers) {ns : List Node} {w : Value}
    {updates : List (Journal → Journal)}
    (succeeds : (Resolution.resolveBelow r ns (.of r owner data) path).Ends (.ok w) updates) :
    ∃ (output : Table Value) (first : List (List String)),
      Node.Decided output ns ∧
      (∀ n ∈ Node.realAmong ns ++ Node.admittedAmong output ns, n.isWhen = false) ∧
      ∀ r' : Registry, r.Alike r' → r'.Gives answers → ∀ path' : Path,
        Settles (Resolution.resolveBelow r' (Node.realAmong ns) (.of r' owner data) path')
          (.object output) first ∧
        ∀ ns' : List Node, (ns' = Node.realAmong ns ++ Node.admittedAmong output ns ∨
            Node.realAmong ns' = Node.realAmong ns ∧ Node.blocksAmong ns' = Node.blocksAmong ns) →
          Settles (Resolution.resolveBelow r' ns' (.of r' owner data) path') w
            (reported (written updates)) := by
  obtain ⟨own, evaluated, perm⟩ := meets_below gives ns owner data path _ _ succeeds
  have told : (evaluateBelow .all r answers ns owner data path).told = .ok (w, reported own) :=
    Verdict.told_eq_ok_iff.2 ⟨own, evaluated, rfl⟩
  obtain ⟨output, first, decided, noWhen, flat⟩ := told_evaluateBelow_flat told
  refine ⟨output, first, decided, noWhen, ?_⟩
  intro r' alike gives' path'
  -- The evaluation under the other registry is the same.
  have same (ns : List Node) (path : Path) :
      evaluateBelow .all r' answers ns owner data path = evaluateBelow .all r answers ns owner data path :=
    ((kept_eq .all).evaluateBelow (fun c _ => evaluate_congr alike .all answers c owner data)
      fun _ _ c _ => evaluate_congr alike .all answers c owner data).symm
  obtain ⟨alone, both⟩ := flat path'
  refine ⟨settles_below gives' (by rw [same]; exact alone), ?_⟩
  intro ns' arranged
  refine .perm ?_ (reported_perm perm).symm
  apply settles_below gives'
  rw [same]
  rcases arranged with rfl | ⟨real, blocks⟩
  · exact both
  · exact (told_evaluateBelow_congr real blocks).2 told

/-! ## A shop -/

/-- What a shop answers: it is open, it has a notice, and nobody knows its stock. -/
def shopAnswers : Answers := fun _ name _ _ =>
  if name = "open" then .ok (.bool true)
  else if name = "notice" then .ok (.text "sale")
  else .error ⟨"LookupError", "no stock"⟩

/-- The registry of a shop, in which a call of the field `open` lets others run so many times. -/
def shop (pauses : Nat) : Registry :=
  shopAnswers.registry (fun name => if name = "open" then pauses else 0)
    [("Shop", [("open", .ofName false "Boolean!"), ("notice", .ofName false "String"),
      ("stock", .ofName false "Number")])] []

/-- A block of calls that are made if a field is not empty. -/
def ifTruthy (field : String) (calls : List Node) : Node :=
  .mk Node.whenName (some [("truthy", .list [.text field])]) calls

/-- A block that holds, before the field that it asks about, and one that asks what only the first
block gives. -/
def shopCalls : List Node :=
  [ifTruthy "open" [.leaf "notice", .leaf "stock"], .leaf "open", ifTruthy "notice" [.leaf "notice"]]

theorem blocks_eliminated_shop : ∃ output first told,
    Settles (Resolution.resolveBelow (shop 0) (Node.realAmong shopCalls) (.of (shop 0) "Shop" .null) [])
      (.object output) first ∧
    Settles (Resolution.resolveBelow (shop 0)
        (Node.realAmong shopCalls ++ Node.admittedAmong output shopCalls) (.of (shop 0) "Shop" .null) [])
      (.object [("open", .bool true), ("notice", .text "sale"), ("stock", .null)]) told := by
  have run : Lane.Reaches (Lane.begun (Resolution.resolveBelow (shop 2) shopCalls
      (.of (shop 2) "Shop" .null) []) { context := {} }) _ := ⟨11, rfl⟩
  obtain ⟨updates, -, stands⟩ := (run.kept (Lane.kept_begun _ _)).sound.answered _ rfl
  obtain ⟨output, first, -, -, settles⟩ :=
    blocks_eliminated (r := shop 2) Answers.gives_registry (stands.ends _ rfl)
  obtain ⟨alone, flat⟩ := settles (shop 0) (Answers.alike_registry ..) Answers.gives_registry []
  exact ⟨output, first, _, alone, flat _ (.inl rfl)⟩

end Execution

end CallTree
