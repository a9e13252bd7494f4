/-
# CallTree.Proofs.Context.Log — what a context shows of its failures.

A context is used in any order: failures are recorded, state is written, and in between its readers ask
what it holds (`Context.Use`). Whatever the uses are, the log shows each failure that has been recorded
once, in the order of positions, and failures at one position as they were recorded (`Context.Sorts`).
Asking changes nothing, and where all positions differ the order of recording does not show
(`Context.log_sorted`).
-/
import CallTree.Proofs.Context

namespace CallTree

namespace Context

/-! ## Sorting -/

/-- **An arrangement of a failure log**: the same failures, each before those at positions below its own
and to the right of it, and those at one position as they were. -/
structure Sorts (log arranged : List FailedCall) : Prop where
  perm : arranged.Perm log
  inOrder : arranged.Pairwise fun f g => f.path <+: g.path ∨ Path.Left f.path g.path
  stable : ∀ path : Path, arranged.filter (·.path = path) = log.filter (·.path = path)

/-- Failures at one position keep their order. -/
theorem filter_arrange (log : List FailedCall) (path : Path) :
    (arrange log).filter (·.path = path) = log.filter (·.path = path) := by
  -- Those at one position are in order among themselves, so sorting keeps them as a part of the log.
  have same : (log.filter (·.path = path)).Pairwise fun a b => a.path.le b.path = true := by
    rw [List.pairwise_filter]
    refine List.pairwise_of_forall fun a b here there => ?_
    rw [decide_eq_true_eq] at here there
    rw [here, there]
    exact Path.prefix_le (List.prefix_refl path)
  have part : (log.filter (·.path = path)).Sublist (arrange log) :=
    List.sublist_mergeSort failures_le_trans failures_le_total same List.filter_sublist
  have within := part.filter (·.path = path)
  rw [List.filter_filter] at within
  have lengths := ((List.mergeSort_perm log fun a b => a.path.le b.path).filter (·.path = path)).length_eq
  have kept : (log.filter (·.path = path)).Sublist ((arrange log).filter (·.path = path)) := by
    simpa using within
  exact (kept.eq_of_length_le (Nat.le_of_eq lengths)).symm

theorem sorts_arrange (log : List FailedCall) : Sorts log (arrange log) where
  perm := List.mergeSort_perm log _
  inOrder := (pairwise_arrange log).imp Path.le_iff.1
  stable := filter_arrange log

/-! ## Uses -/

/-- What can be asked of a context. -/
inductive Question where
  | errors
  | failures
  | hasErrors
  | state (key : String) (otherwise : Value)

/-- What a reader is shown. -/
inductive Shown where
  | errors (entries : List (List String))
  | failures (log : List FailedCall)
  | hasErrors (any : Bool)
  | state (value : Value)

/-- **`Use`** — what is done with a context: a failure is recorded, state is written, or something is
asked. -/
inductive Use where
  | record (path : Path) (call : String) (failure : Failure)
  | write (key : String) (value : Value)
  | ask (q : Question)

/-- What a context answers. -/
def answer (c : Context) : Question → Shown
  | .errors => .errors c.errors
  | .failures => .failures c.ordered
  | .hasErrors => .hasErrors c.hasErrors
  | .state key otherwise => .state (c.getState key otherwise)

namespace Use

/-- Carry a use out: what it shows, and the context behind it. -/
def run (c : Context) : Use → Option Shown × Context
  | .record path call failure => (none, c.record path call failure)
  | .write key value => (none, c.setState key value)
  | .ask q => (some (c.answer q), c)

/-- The entry of the log that a use makes, if it makes one. -/
def recorded? : Use → Option FailedCall
  | .record path call failure => some ⟨path, call, failure.report⟩
  | .write _ _ => none
  | .ask _ => none

/-- Whether a use only asks. -/
def asks : Use → Bool
  | .ask _ => true
  | _ => false

end Use

/-- The failures that have been recorded, as they were recorded. -/
def recorded (uses : List Use) : List FailedCall := uses.filterMap Use.recorded?

/-- The context behind some uses. -/
def perform (c : Context) (uses : List Use) : Context := uses.foldl (fun c u => (u.run c).2) c

/-- **Step.** A use adds what it records to the log, and nothing else. -/
theorem failures_run (c : Context) (u : Use) :
    (u.run c).2.failures = c.failures ++ u.recorded?.toList := by
  cases u with
  | record path call failure => rfl
  | write key value => exact (List.append_nil _).symm
  | ask q => exact (List.append_nil _).symm

/-- **Run.** The log behind some uses holds what they have recorded. -/
theorem failures_perform (c : Context) (uses : List Use) :
    (c.perform uses).failures = c.failures ++ recorded uses := by
  induction uses generalizing c with
  | nil => exact (List.append_nil _).symm
  | cons u rest ih =>
    have here := ih (u.run c).2
    rw [failures_run, List.append_assoc] at here
    rw [recorded, List.filterMap_cons]
    cases made : u.recorded? with
    | none =>
      rw [made] at here
      exact here
    | some f =>
      rw [made] at here
      exact here

/-- **Run.** Without those that only ask, uses make the same context. -/
theorem perform_eq_filter (c : Context) (uses : List Use) :
    c.perform uses = c.perform (uses.filter fun u => !u.asks) := by
  induction uses generalizing c with
  | nil => rfl
  | cons u rest ih =>
    cases u with
    | record path call failure => exact ih (c.record path call failure)
    | write key value => exact ih (c.setState key value)
    | ask q => exact ih c

/-- **The failure log of a context is a stable sort.** Behind any uses of the context of a new request, what
it shows of failures is an arrangement of all that have been recorded, as pairs of call and report; it tells
that there are failures exactly if one has been recorded; whoever asks has changed nothing, here or before;
and uses that have recorded the same in another order show the same, if all positions differ. -/
theorem log_sorted (inbound : Value) (state : Table Value) (uses : List Use) :
    let new : Context := { request := inbound, state }
    let c := new.perform uses
    Sorts (recorded uses) c.ordered ∧
    c.errors = c.ordered.map (fun f => [f.call, f.report]) ∧
    (c.hasErrors = true ↔ recorded uses ≠ []) ∧
    (∀ q, (Use.ask q).run c = (some (c.answer q), c)) ∧
    c = new.perform (uses.filter fun u => !u.asks) ∧
    ∀ uses', (recorded uses').Perm (recorded uses) → ((recorded uses).map FailedCall.path).Nodup →
      (new.perform uses').errors = c.errors := by
  intro new c
  have log (uses : List Use) : (new.perform uses).failures = recorded uses := failures_perform new uses
  have sorted : Sorts (recorded uses) c.ordered := by
    show Sorts (recorded uses) (arrange c.failures)
    rw [log]
    exact sorts_arrange (recorded uses)
  refine ⟨sorted, rfl, ?_, fun q => rfl, perform_eq_filter new uses, ?_⟩
  · show (!c.failures.isEmpty) = true ↔ _
    rw [log]
    simp
  · intro uses' same once
    rw [errors_eq, errors_eq, log, log]
    exact reports_eq_of_perm same ((same.map FailedCall.path).nodup_iff.2 once)

/-- Four failures, two of them at one position and one above that, with a reader in between. -/
def stumbling : List Use := [
  .record [1, 0] "age" ⟨"ValueError", "late"⟩,
  .record [2] "owner" ⟨"KeyError", ""⟩,
  .ask .errors,
  .record [1] "friends" ⟨"ValueError", "gone"⟩,
  .record [1, 0] "name" ⟨"ValueError", "early"⟩]

/-- The two failures at one position stay as they were recorded, and two at different positions show the same
in either order. -/
theorem log_sorted_stumbling :
    let c := ({} : Context).perform stumbling
    c.ordered.filter (·.path = [1, 0]) =
      [⟨[1, 0], "age", "late"⟩, ⟨[1, 0], "name", "early"⟩] ∧
    c.hasErrors = true ∧
    (({} : Context).perform [stumbling[1], stumbling[0]]).errors =
      (({} : Context).perform [stumbling[0], stumbling[1]]).errors := by
  obtain ⟨sorted, -, any, -⟩ := log_sorted .null [] stumbling
  obtain ⟨-, -, -, -, -, others⟩ := log_sorted .null [] [stumbling[0], stumbling[1]]
  refine ⟨sorted.stable [1, 0], any.2 nofun, others _ (.swap _ _ _) (by decide)⟩

end Context

end CallTree
