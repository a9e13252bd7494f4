/-
# CallTree.Proofs.Execution.Schedules — answers do not depend on the schedule.

If resolvers depend on nothing but their arguments and the value above, a request is answered as if its
call tree were evaluated one call after the other (`Execution.schedule_independent`), however often
each resolver call lets others run.

The one thing that a schedule decides is which fault a failed request tells of: it is one of those that
are found when every call is evaluated by itself (`Sequential.violations`).
-/
import CallTree.Proofs.Context
import CallTree.Proofs.Execution.Alone
import CallTree.Proofs.Sequential.Agreement
import CallTree.Proofs.Sequential.Positions

namespace CallTree

namespace Sequential

/-- **The sequential evaluation** of a request's call tree; it stops at the first fault. -/
def sequential (r : Registry) (answers : Answers) (n : Node) : Verdict Abort Value :=
  evaluate .first r answers n Registry.rootName .null []

/-- The evaluation of a request's call tree in which each call is evaluated by itself. -/
def survey (r : Registry) (answers : Answers) (n : Node) : Survey Value :=
  evaluate .all r answers n Registry.rootName .null []

/-- **The violations** that are found when each call is evaluated by itself. -/
def violations (r : Registry) (answers : Answers) (n : Node) : List Abort :=
  match survey r answers n with
  | .error es => es
  | .ok _ => []

/-- **An envelope that fits the sequential evaluation** of a call tree: if that succeeds, a success
with the same data and the same failures; if it meets a fault, a failure that tells of one of the
violations. -/
def Fits (r : Registry) (answers : Answers) (n : Node) (envelope : Envelope) : Prop :=
  match sequential r answers n with
  | .ok (v, log) => envelope = .success v (Context.reports (Journal.failures log))
  | .error _ => ∃ e ∈ violations r answers n,
      envelope = .failure Envelope.processingTag e.message

variable {r : Registry} {answers : Answers} {n : Node} {envelope envelope' : Envelope}

theorem fits_of_ok {v : Value} {log : List Journal.Event}
    (surveyed : survey r answers n = .ok (v, log))
    (h : envelope = .success v (Context.reports (Journal.failures log))) :
    Fits r answers n envelope := by
  have found : sequential r answers n = .ok (v, log) := evaluate_blame .first surveyed
  rw [Fits, found]
  exact h

theorem fits_of_error {es : List Abort} {e : Abort} (surveyed : survey r answers n = .error es)
    (mem : e ∈ es) (h : envelope = .failure Envelope.processingTag e.message) :
    Fits r answers n envelope := by
  have violated : violations r answers n = es := by rw [violations, surveyed]
  rw [Fits]
  split
  · rename_i v log found
    have all : survey r answers n = .ok (v, log) := evaluate_blame .all found
    rw [surveyed] at all
    cases all
  · exact ⟨e, violated ▸ mem, h⟩

/-- Envelopes that fit the same evaluation agree on success, and successful ones are equal. -/
theorem Fits.agree (h : Fits r answers n envelope) (h' : Fits r answers n envelope') :
    envelope'.ok = envelope.ok ∧ (envelope.ok → envelope' = envelope) := by
  rw [Fits] at h h'
  split at h
  · rename_i v log found
    rw [found] at h'
    rw [h, show envelope' = _ from h']
    exact ⟨rfl, fun _ => rfl⟩
  · rename_i fault found
    rw [found] at h'
    obtain ⟨e, _, rfl⟩ := h
    obtain ⟨e', _, rfl⟩ := h'
    exact ⟨rfl, nofun⟩

end Sequential

namespace Execution

open CallTree.Sequential

variable {r : Registry} {answers : Answers} {q : Request} {n : Node}

/-- The failure log after the steps of a success. -/
theorem errors_of_ends {scope : Scope} {path : Path} {v : Value}
    {updates updates' : List (Journal → Journal)} (within : scope.In r)
    (ends : (Resolution.resolve r n scope path).Ends (.ok v) updates')
    (perm : updates.Perm updates') (q : Request) :
    (perform updates q.journal).history = Journal.written updates ∧
      (perform updates q.journal).context.errors =
        Context.reports (Journal.failures (Journal.written updates)) := by
  have steps := ((Resolution.inherited_acts r).resolve n scope path within).of_ends ends v rfl
  obtain ⟨history, failed⟩ := Journal.perform_adds (fun u mem => steps u (perm.mem_iff.1 mem)) q.journal
  rw [Context.errors_eq, failed, history]
  exact ⟨rfl, rfl⟩

/-- A success has the value of the evaluation, and its history in some order. -/
theorem survey_of_ends (gives : r.Gives answers) (asks : q.source.read = .ok n) {v : Value}
    {updates : List (Journal → Journal)} (ends : (q.task r).Ends (.ok v) updates) :
    ∃ own, survey r answers n = .ok (v, own) ∧ (perform updates q.journal).history.Perm own ∧
      (perform updates q.journal).context.errors =
        Context.reports (Journal.failures (perform updates q.journal).history) := by
  have within := Scope.in_of r Registry.rootName .null
  obtain ⟨updates', ends', perm⟩ := Request.ends_of_task asks ends
  obtain ⟨own, found, same⟩ := meets_resolve gives n _ [] within _ _ ends'
  obtain ⟨history, errors⟩ := errors_of_ends within ends' perm q
  rw [history]
  exact ⟨own, found, (Journal.written_perm perm).trans same, errors⟩

/-- The order of an evaluation does not show in what is told of its failures. -/
theorem reports_of_survey {v : Value} {own : List Journal.Event} {failed : List FailedCall}
    (found : survey r answers n = .ok (v, own)) (same : failed.Perm (Journal.failures own)) :
    Context.reports failed = Context.reports (Journal.failures own) := by
  have once := (under_evaluate n _ _ _ _ _ found).once
  exact Context.reports_eq_of_perm same ((same.map FailedCall.path).nodup_iff.2 once)

/-- The answer to a request fits its sequential evaluation. -/
theorem fits_alone (gives : r.Gives answers) (asks : q.source.read = .ok n) (patient : q.Patient) :
    ∃ response, alone r q = some response ∧ Fits r answers n response.envelope := by
  obtain ⟨outcome, updates, ends, answer⟩ := exists_alone gives.lively patient
  refine ⟨_, answer, ?_⟩
  cases outcome with
  | ok v =>
    obtain ⟨own, found, perm, errors⟩ := survey_of_ends gives asks ends
    rw [reports_of_survey found (Journal.failures_perm perm)] at errors
    exact fits_of_ok found (congrArg (Envelope.success v) errors)
  | error e =>
    obtain ⟨updates', fails⟩ := Request.fails_of_task asks patient ends
    obtain ⟨es, found, mem⟩ := meets_resolve gives n _ [] (Scope.in_of ..) _ _ fails
    exact fits_of_error found mem rfl

/-- **Schedule independence.** If the resolvers of a registry give their answers, a request is
answered, and the answer fits the sequential evaluation of its call tree. Registries that differ only
in how often their resolvers let others run answer alike: they agree on success, and on the whole of a
successful answer. -/
theorem schedule_independent (gives : r.Gives answers) (asks : q.source.read = .ok n)
    (unlimited : q.limit = .null) :
    ∃ response, alone r q = some response ∧ Fits r answers n response.envelope ∧
      ∀ r' : Registry, r.Alike r' → r'.Gives answers →
        ∃ response', alone r' q = some response' ∧ Fits r answers n response'.envelope ∧
          response'.envelope.ok = response.envelope.ok ∧
          (response.envelope.ok → response'.envelope = response.envelope) := by
  obtain ⟨response, answer, fits⟩ := fits_alone gives asks (.inl unlimited)
  refine ⟨response, answer, fits, ?_⟩
  intro r' alike gives'
  -- The evaluation does not see how often resolvers let others run, so both answers fit the same.
  obtain ⟨response', answer', fits'⟩ := fits_alone gives' asks (.inl unlimited)
  have same (e : Envelope) : Fits r' answers n e ↔ Fits r answers n e := by
    have first : sequential r answers n = sequential r' answers n := evaluate_congr alike ..
    have all : survey r answers n = survey r' answers n := evaluate_congr alike ..
    rw [Fits, Fits, violations, violations, first, all]
  have fits'' := (same _).1 fits'
  exact ⟨response', answer', fits'', fits.agree fits''⟩

/-! ## A pair of queries -/

/-- Two queries for a text, whose resolvers come to the same. The first lets others run so many times
before it does. -/
def pair (outcome : Except Failure Value) (pauses : Nat) : Registry :=
  Answers.registry (fun _ _ _ _ => outcome) (fun name => if name = "first" then pauses else 0) []
    [("first", .ofName false "String!"), ("second", .ofName false "String!")]

/-- The call tree that asks for both. -/
def bothNode : Node := .mk Node.composeName none [.leaf "first", .leaf "second"]

/-- A request for both. -/
def both : Request := { source := .call bothNode }

theorem gives_pair (outcome : Except Failure Value) (pauses : Nat) :
    (pair outcome pauses).Gives fun _ _ _ _ => outcome :=
  Answers.gives_registry

theorem alike_pair (outcome : Except Failure Value) (pauses pauses' : Nat) :
    (pair outcome pauses).Alike (pair outcome pauses') :=
  Answers.alike_registry ..

theorem schedule_independent_pair :
    ∃ response response', alone (pair (.ok (.text "x")) 1) both = some response ∧
      Fits (pair (.ok (.text "x")) 1) (fun _ _ _ _ => .ok (.text "x")) bothNode response.envelope ∧
      alone (pair (.ok (.text "x")) 0) both = some response' ∧
      response'.envelope.ok = response.envelope.ok ∧
      (response.envelope.ok → response'.envelope = response.envelope) := by
  obtain ⟨response, answer, fits, others⟩ :=
    schedule_independent (gives_pair (.ok (.text "x")) 1) (q := both) (n := bothNode) rfl rfl
  obtain ⟨response', answer', _, ok, same⟩ :=
    others _ (alike_pair _ 1 0) (gives_pair (.ok (.text "x")) 0)
  exact ⟨response, response', answer, fits, answer', ok, same⟩

/-- What is sent under `errors` in answer to a request. -/
def sentErrors (r : Registry) (q : Request) : Option (Option Value) :=
  (alone r q).map fun response => response.envelope.toFields.get? "errors"

/-- What is sent there if one of the two is null. -/
def missing (name : String) : Value :=
  Envelope.errorsValue [[Envelope.processingTag,
    ResultFault.message name (.null (.ofName false "String!"))]]

theorem sentErrors_pair_zero :
    sentErrors (pair (.ok .null) 0) both = some (some (missing "first")) := by
  have answer : alone (pair (.ok .null) 0) both = _ := alone_eq ⟨6, rfl⟩ (.inl rfl)
  rw [sentErrors, answer]
  rfl

theorem sentErrors_pair_one :
    sentErrors (pair (.ok .null) 1) both = some (some (missing "second")) := by
  have answer : alone (pair (.ok .null) 1) both = _ := alone_eq ⟨7, rfl⟩ (.inl rfl)
  rw [sentErrors, answer]
  rfl

theorem missing_ne : missing "first" ≠ missing "second" := by
  intro same
  simp only [missing, Envelope.errorsValue, List.map_cons, List.map_nil, List.cons.injEq,
    Value.list.injEq, Value.text.injEq, and_true, true_and] at same
  exact absurd same (by decide)

/-- **The schedule does decide which fault is told.** Two registries that differ in one pause alone
may answer a request with different errors. -/
theorem schedule_tells : ¬ ∀ (r r' : Registry) (answers : Answers) (q : Request) (n : Node),
    r.Gives answers → r'.Gives answers → r.Alike r' → q.source.read = .ok n → q.limit = .null →
      sentErrors r q = sentErrors r' q := by
  intro always
  have same := always (pair (.ok .null) 0) (pair (.ok .null) 1) _ both bothNode (gives_pair _ 0)
    (gives_pair _ 1) (alike_pair _ 0 1) rfl rfl
  rw [sentErrors_pair_zero, sentErrors_pair_one, Option.some.injEq, Option.some.injEq] at same
  exact missing_ne same

end Execution

end CallTree
