/-
# CallTree.Proofs.Sequential.Relocation — the same calls at another place.

An evaluation builds the positions of its calls below the position that it is given, and uses them for
nothing else. So at another place it comes to the same, and tells the same of its calls, with the
front of their positions replaced (`evaluate_moved`). What clients are told of failures leaves the
positions out (`Journal.reported`), so it stays as it is (`reported_moved`).
-/
import CallTree.Proofs.Context
import CallTree.Proofs.Sequential.Positions

namespace CallTree

/-- A call at a place further down. -/
def Call.moved (front : Path) (c : Call) : Call := { c with path := front ++ c.path }

/-- A failed call at a place further down. -/
def FailedCall.moved (front : Path) (f : FailedCall) : FailedCall := { f with path := front ++ f.path }

namespace Journal

/-- An event of a call at a place further down. -/
def Event.moved (front : Path) : Event → Event
  | .started call => .started (call.moved front)
  | .ended call outcome => .ended (call.moved front) outcome

/-- The failures of calls at a place further down. -/
theorem failures_moved (front : Path) (history : List Event) :
    failures (history.map (Event.moved front)) = (failures history).map (FailedCall.moved front) := by
  rw [failures, failures, List.filterMap_map, List.map_filterMap]
  congr
  funext e
  cases e with
  | started _ => rfl
  | ended _ outcome =>
    cases outcome with
    | ok _ => rfl
    | error _ => rfl

/-- **What clients are told does not show the place.** -/
theorem reported_moved (front : Path) (history : List Event) :
    reported (history.map (Event.moved front)) = reported history := by
  rw [reported, failures_moved, List.map_map]
  rfl

end Journal

/-- What is told of failures further down, in their order, is told in the same order. -/
theorem Context.arrange_moved (front : Path) (log : List FailedCall) :
    arrange (log.map (FailedCall.moved front)) = (arrange log).map (FailedCall.moved front) := by
  refine (List.map_mergeSort ?_).symm
  intro f _ g _
  exact (Path.le_append front f.path g.path).symm

theorem Context.reports_moved (front : Path) (log : List FailedCall) :
    reports (log.map (FailedCall.moved front)) = reports log := by
  rw [reports, arrange_moved, List.map_map]
  rfl

namespace Sequential

open Journal Resolution

variable {ε α β : Type}

namespace Verdict

/-- A verdict on calls at a place further down. -/
def moved (front : Path) (v : Verdict ε α) : Verdict ε α :=
  v.map fun run => (run.1, run.2.map (Event.moved front))

theorem moved_succeed (front : Path) (a : α) : moved front (succeed a : Verdict ε α) = succeed a :=
  rfl

theorem moved_andThen (front : Path) (v : Verdict ε α) (k : α → Verdict ε β) :
    moved front (v.andThen k) = (moved front v).andThen fun a => moved front (k a) := by
  rcases v with e | ⟨a, log⟩
  · rfl
  · show moved front (andThen (.ok (a, log)) k) =
      andThen (.ok (a, log.map (Event.moved front))) fun a => moved front (k a)
    simp only [andThen]
    rcases k a with e | ⟨b, more⟩
    · rfl
    · simp only [moved, Except.map, List.map_append]

end Verdict

open Verdict (moved moved_succeed moved_andThen)

theorem moved_each (front : Path) (b : Blame ε) (verdicts : List (Verdict ε α)) :
    moved front (each b verdicts) = each b (verdicts.map (moved front)) := by
  induction verdicts with
  | nil => rfl
  | cons v rest ih =>
    rcases v with e | ⟨a, log⟩
    · rw [List.map_cons]
      show _ = each b (.error e :: rest.map (moved front))
      rw [each, each, ← ih]
      rcases each b rest with e' | ⟨as, more⟩
      · rfl
      · rfl
    · rw [List.map_cons]
      show _ = each b (.ok (a, log.map (Event.moved front)) :: rest.map (moved front))
      rw [each, each, ← ih]
      rcases each b rest with e' | ⟨as, more⟩
      · rfl
      · simp only [moved, Except.map, List.map_append]

theorem moved_round (front : Path) (b : Blame ε) (composes : Bool) (calls : List (Verdict ε Value))
    (output : Table Value) :
    moved front (round b composes calls output) =
      round b composes (calls.map (moved front)) output := by
  unfold round
  by_cases inside : composes
  · rw [if_pos inside, if_pos inside]
    rfl
  · rw [if_neg inside, if_neg inside, moved_andThen, moved_each]
    rfl

section

variable {b : Blame ε} {r : Registry} {answers : Answers} {front : Path}

/-- Calls that are each evaluated alike at their places further down. -/
theorem map_evaluateAt_moved (cs : List Placed) {owner : String} {data : Value}
    (each : ∀ c ∈ cs, evaluate b r answers c.2 owner data (front ++ c.1) =
      moved front (evaluate b r answers c.2 owner data c.1)) :
    (cs.map (Placed.moved front)).map (evaluateAt b r answers owner data) =
      (cs.map (evaluateAt b r answers owner data)).map (moved front) := by
  rw [List.map_map, List.map_map]
  exact List.map_congr_left each

theorem evaluateBelow_moved {ns : List Node} {type : String} {v : Value} {path : Path}
    (children : ∀ c ∈ ns, ∀ path, evaluate b r answers c type v (front ++ path) =
      moved front (evaluate b r answers c type v path))
    (inBlocks : ∀ d ∈ ns, ∀ c ∈ d.children, ∀ path,
      evaluate b r answers c type v (front ++ path) =
        moved front (evaluate b r answers c type v path)) :
    evaluateBelow b r answers ns type v (front ++ path) =
      moved front (evaluateBelow b r answers ns type v path) := by
  unfold evaluateBelow
  have first := map_evaluateAt_moved (real path ns) fun c mem => children c.2 (mem_of_real mem) c.1
  rw [real_moved, any_isCompose_moved, first, conditional_moved, moved_andThen, moved_round]
  congr
  funext output
  rw [holding_moved]
  cases holds : holding output (conditional path ns) with
  | error f => rfl
  | ok bs =>
    have second := map_evaluateAt_moved (bs.flatMap inside) fun c mem => by
      obtain ⟨d, hd, here⟩ := mem_of_inside holds mem
      exact inBlocks d hd c.2 here c.1
    simp only [Except.map]
    rw [flatMap_inside_moved, any_isCompose_moved, second, moved_andThen, moved_round]
    rfl

theorem descend_moved {type : Descriptor} {path : Path}
    {children : String → Value → Path → Verdict ε Value} {v : Value}
    (below : ∀ data path, children type.name data (front ++ path) =
      moved front (children type.name data path)) :
    descend b type (front ++ path) children v = moved front (descend b type path children v) := by
  unfold descend
  by_cases null : v.isNull
  · rw [if_pos null, if_pos null]
    rfl
  · rw [if_neg null, if_neg null]
    by_cases array : type.isArray
    · rw [if_pos array, if_pos array, moved_andThen, moved_each]
      simp only [List.mapIdx_eq_zipIdx_map, List.map_map]
      congr
      funext item
      simp only [Function.comp_apply]
      by_cases none : item.1.isNull
      · rw [if_pos none, if_pos none]
        rfl
      · rw [if_neg none, if_neg none, List.append_assoc]
        exact below _ _
    · rw [if_neg array, if_neg array]
      exact below v path

theorem complete_moved {name : String} {type : Descriptor} {hasChildren : Bool} {path : Path}
    {children : String → Value → Path → Verdict ε Value} {v : Value}
    (below : ∀ data path, children type.name data (front ++ path) =
      moved front (children type.name data path)) :
    complete b name type hasChildren (front ++ path) children v =
      moved front (complete b name type hasChildren path children v) := by
  unfold complete
  by_cases native : type.isNative
  · rw [if_pos native, if_pos native]
    cases Check.nativeResult type hasChildren v with
    | error f => rfl
    | ok _ => rfl
  · rw [if_neg native, if_neg native]
    cases Check.customResult type hasChildren v with
    | error f => rfl
    | ok _ =>
      simp only
      rw [descend_moved below, moved_andThen]
      rfl

/-- **An evaluation at another place** comes to the same, and tells the same of its calls there. -/
theorem evaluate_moved (n : Node) : ∀ owner data path,
    evaluate b r answers n owner data (front ++ path) =
      moved front (evaluate b r answers n owner data path) := by
  induction n using Node.induct with
  | compose args children ih =>
    intro owner data path
    have calls := map_evaluateAt_moved (placed path children)
      fun c mem => ih c.2 (mem_of_placed mem) owner data c.1
    rw [evaluate_compose, evaluate_compose, placed_moved, calls, moved_andThen, moved_each]
    rfl
  | when args children =>
    intro owner data path
    rw [evaluate_when, evaluate_when]
    rfl
  | field name args children noCompose noWhen ih ihBlocks =>
    intro owner data path
    rw [evaluate_field _ _ _ _ _ _ _ _ noCompose noWhen,
      evaluate_field _ _ _ _ _ _ _ _ noCompose noWhen, callField, callField]
    cases r.field? owner name with
    | none => rfl
    | some f =>
      simp only
      cases checkCall r name args f with
      | error e => rfl
      | ok _ =>
        simp only
        cases answers owner name (args.getD []) data with
        | error failure => rfl
        | ok v =>
          simp only
          rw [moved_andThen]
          refine congrArg (Verdict.andThen _) (funext fun _ => complete_moved fun data path => ?_)
          exact evaluateBelow_moved (fun c mem => ih c mem _ data)
            fun d mem c inside => ihBlocks d mem c inside _ data

/-- An evaluation at a place is the one at the root, moved there. -/
theorem evaluate_at (n : Node) (owner : String) (data : Value) (path : Path) :
    evaluate b r answers n owner data path = moved path (evaluate b r answers n owner data []) := by
  rw [← evaluate_moved, List.append_nil]

end

/-- Where a run is moved to does not show. -/
theorem shown_moved {α : Type} (front : Path) (run : α × List Journal.Event) :
    shown (run.1, run.2.map (Journal.Event.moved front)) = shown run := by
  rw [shown, Journal.failures_moved, Context.reports_moved]
  rfl

end Sequential

end CallTree
