/-
# CallTree.Proofs.Execution.Envelopes — every request is answered, in one of three forms.

A request is answered if a time limit ends it or nothing in it hangs, and its answer has exactly one form
(`Execution.answered_in_one_form`): data, data with the failures of resolvers, or one sentence that tells
why the request was aborted (`Envelope.Form`). The third is the form of the answer to a request of which
the call tree does not read, of which the time limit fires, or that meets a fault outside of resolvers
(`Execution.Aborts`). It shows nothing else: no data, and none of the failures that have been logged.
-/
import CallTree.Proofs.Execution.Termination
import CallTree.Proofs.Resolution.Outcomes

namespace CallTree

open Journal

/-! ## The three forms -/

namespace Envelope

/-- The forms of an answer. -/
inductive Form where
  | data
  | dataAndErrors
  | failure

/-- **What is sent in a form.** Every failure that is told of has a sentence, and so has an abort. -/
def Form.Fits : Form → Table Value → Prop
  | .data, fields => ∃ data, fields = [("data", data)]
  | .dataAndErrors, fields => ∃ data errors,
      fields = [("data", data), ("errors", errorsValue errors)] ∧ errors ≠ [] ∧
        ∀ entry ∈ errors, ∃ call message, entry = [call, message] ∧ message ≠ ""
  | .failure, fields => ∃ message,
      fields = [("errors", errorsValue [[processingTag, message]])] ∧ message ≠ ""

/-- An answer has one form at most. -/
theorem Form.unique {form form' : Form} {fields : Table Value} (h : form.Fits fields)
    (h' : form'.Fits fields) : form' = form := by
  have keys {form : Form} (h : form.Fits fields) : fields.map Prod.fst =
      match form with
      | .data => ["data"]
      | .dataAndErrors => ["data", "errors"]
      | .failure => ["errors"] := by
    cases form with
    | data =>
      obtain ⟨data, rfl⟩ := h
      rfl
    | dataAndErrors =>
      obtain ⟨data, errors, rfl, -⟩ := h
      rfl
    | failure =>
      obtain ⟨message, rfl, -⟩ := h
      rfl
  have same := (keys h').symm.trans (keys h)
  cases form <;> cases form' <;> first | rfl | simp at same

end Envelope

namespace Execution

variable {r : Registry} {q : Request}

/-- **A registry of which all failures have names**: what a resolver fails with is of a kind. -/
def Named (r : Registry) : Prop :=
  ∀ c failure, r.MayGive c (.error failure) → failure.kind ≠ ""

/-! ## Aborts -/

/-- **The time limit of a request fires**: before anything is resolved; soon, if the resolution has not come
to anything by then; or when the request stalls, and the seconds pass. -/
def Fires (r : Registry) (q : Request) (n : Node) (x : Binary64) : Prop :=
  Limit.seconds q.limit = .ok x ∧
    match Limit.kind x with
    | .before => True
    | .atOnce => ((Request.resolution r n).early q.journal).1 = none
    | .idle => Stalls r q.unlimited ∧ Limit.passes x = true

/-- **What a request is aborted for**, with its journal at the time of the answer. -/
inductive Aborts (r : Registry) (q : Request) (j : Journal) : Abort → Prop where
  /-- The call tree does not read. -/
  | shape {f : ShapeFault} (unread : q.source.read = .error f) : Aborts r q j (.shape f)
  /-- The time limit fires. -/
  | elapsed {n : Node} {x : Binary64} (asks : q.source.read = .ok n) (fires : Fires r q n x) :
      Aborts r q j (.elapsed x)
  /-- The time limit is no number. -/
  | limit {n : Node} {f : Limit.Fault} (asks : q.source.read = .ok n) (present : q.limit ≠ .null)
      (refused : Limit.seconds q.limit = .error f) : Aborts r q j (.limit f)
  /-- The unfolded tree meets a fault: a check fails, or conditions do not answer. -/
  | fault {n : Node} {e : Abort} (asks : q.source.read = .ok n)
      (met : e ∈ (n.plan r j.history).faults) : Aborts r q j e

/-- Where no resolver hangs, nothing in a request does. -/
theorem not_hangs (lively : r.Lively) (l : Lane Journal Abort Value) : ¬ Hangs r l := by
  rintro ⟨-, c, -, -, f, found, hangs⟩
  exact hangs (lively _ _ f found _ _)

/-- What a resolution has failed with early, it has words for of its own. -/
theorem worded_of_early {n : Node} {e : Abort}
    (early : ((Request.resolution r n).early q.journal).1 = some (.error e)) : Worded e.message := by
  -- However it is called off, it comes to this; and it can be called off with what has words of its own.
  have stop := Limit.Fault.tooLarge
  have cut := Task.advance_atOnce (Request.resolution r n) (.limit stop) q.journal
  obtain ⟨updates, -, leads⟩ := Task.leads_advance ((Request.resolution r n).atOnce (.limit stop)) q.journal
  rw [cut, early] at leads
  rcases (leads _ _ (.done (.error e))).of_atOnce with stands | ⟨same, -⟩
  · exact (Unfolding.explains_unfold n _ _ _ e ((seen_of_stands stands).keeps.failed e rfl)).worded
  · cases same
    exact stop.plain.1

/-- **A time limit fires** exactly when it is what the request is answered with. -/
theorem fires_iff {n : Node} {x : Binary64} (asks : q.source.read = .ok n)
    (number : Limit.seconds q.limit = .ok x) :
    Fires r q n x ↔ ∃ response, alone r q = some response ∧ response.envelope = timedOut x := by
  have task : q.task r = Request.limited q.limit (Request.resolution r n) := by
    rw [Request.task, asks]
    rfl
  cases kind : Limit.kind x with
  | before =>
    rw [(Request.limited_of_seconds number _).1 kind] at task
    exact ⟨fun _ => ⟨_, alone_of_fail task, rfl⟩, fun _ => ⟨number, by rw [kind]; trivial⟩⟩
  | atOnce =>
    have answer := alone_of_atOnce (r := r) asks number kind
    rw [Fires, kind]
    constructor
    · rintro ⟨-, fires⟩
      rw [fires] at answer
      exact ⟨_, answer, rfl⟩
    · rintro ⟨response, answer', up⟩
      cases answer.symm.trans answer'
      refine ⟨number, ?_⟩
      -- What the resolution has come to has words of its own.
      cases early : ((Request.resolution r n).early q.journal).1 with
      | none => rfl
      | some outcome =>
        rw [early] at up
        cases outcome with
        | ok v => cases up
        | error e => exact absurd (Envelope.failure.inj up).2 ((worded_of_early early).2 x)
  | idle =>
    rw [timedOut_iff_stalls number kind, Fires, kind]
    exact ⟨fun fires => fires.2, fun fires => ⟨number, fires⟩⟩

/-- **A request that fails is aborted** for what it fails with. -/
theorem aborts_of_error {e : Abort} {updates : List (Journal → Journal)}
    (stands : (q.task r).Stands (.ended (.error e)) updates)
    (answer : alone r q = some (Request.response (.error e) (perform updates q.journal))) :
    Aborts r q (perform updates q.journal) e := by
  rcases Request.error_of_stands stands with
    ⟨f, unread, rfl⟩ | ⟨n, asks, ⟨present, ⟨f, refused, rfl⟩ | ⟨x, number, -, rfl⟩⟩ | met⟩
  · exact .shape unread
  · exact .limit asks present refused
  · exact .elapsed asks ((fires_iff asks number).2 ⟨_, answer, rfl⟩)
  · rw [← (Request.history_of_stands stands).1] at met
    exact .fault asks met

/-- A request that is not answered by itself is aborted for its time limit. -/
theorem aborts_of_unanswered {x : Binary64} {j : Journal} (number : Limit.seconds q.limit = .ok x)
    (answer : alone r q = some (Request.response (.error (.elapsed x)) j)) :
    Aborts r q j (.elapsed x) := by
  cases asks : q.source.read with
  | ok n => exact .elapsed asks ((fires_iff asks number).2 ⟨_, answer, rfl⟩)
  | error f =>
    have failed := alone_of_unread (r := r) asks
    have same : f.text = Limit.elapsedMessage x :=
      (Envelope.failure.inj (congrArg Response.envelope (Option.some.inj (failed.symm.trans answer)))).2
    exact absurd same (f.plain.1.2 x)

/-- **A request that succeeds has nothing to be aborted for.** -/
theorem not_aborts_of_ok {v : Value} {updates : List (Journal → Journal)}
    (stands : (q.task r).Stands (.ended (.ok v)) updates)
    (answer : alone r q = some (Request.response (.ok v) (perform updates q.journal)))
    {e : Abort} : ¬ Aborts r q (perform updates q.journal) e := by
  intro aborts
  cases aborts with
  | @shape f unread =>
    rcases (Request.stands_of_unread unread stands).2 with same | same <;> cases same
  | elapsed asks fires =>
    obtain ⟨response, answer', up⟩ := (fires_iff asks fires.1).1 fires
    cases answer.symm.trans answer'
    cases up
  | limit asks present refused => cases answer.symm.trans (alone_of_refused refused present asks)
  | fault asks met =>
    obtain ⟨stood, own, shows⟩ := Request.stands_of_task asks stands
    cases shows with
    | same =>
      -- A tree that has been carried out meets no fault.
      have done := (seen_of_stands own).keeps.succeeded v rfl
      rw [(Request.history_of_stands stands).1, done.noFault] at met
      cases met

/-! ## Failures of resolvers -/

theorem report_ne {f : Failure} (named : f.kind ≠ "") : f.report ≠ "" := by
  unfold Failure.report
  split
  · exact named
  · assumption

/-- **The failures that are told of** have sentences. -/
theorem told_of_errors (named : Named r) {n : Node} (asks : q.source.read = .ok n)
    {standing : Standing Abort Value} {updates : List (Journal → Journal)}
    (stands : (q.task r).Stands standing updates) :
    ∀ entry ∈ (perform updates q.journal).context.errors,
      ∃ call message, entry = [call, message] ∧ message ≠ "" := by
  intro entry mem
  obtain ⟨stood, own, -⟩ := Request.stands_of_task asks stands
  rw [Context.errors_eq, (Request.history_of_stands stands).2] at mem
  obtain ⟨failed, arranged, rfl⟩ := List.mem_map.1 mem
  obtain ⟨event, written, same⟩ := List.mem_filterMap.1 ((List.mergeSort_perm _ _).mem_iff.1 arranged)
  match event, same with
  | .ended call (.error f), rfl =>
    have may := Resolution.written_mayGive (Scope.in_of ..) own written
    exact ⟨call.field, f.report, rfl, report_ne (named call f may)⟩

/-- Where nothing is told of, no resolver has failed. -/
theorem no_failure_of_errors {standing : Standing Abort Value} {updates : List (Journal → Journal)}
    (stands : (q.task r).Stands standing updates)
    (none : (perform updates q.journal).context.errors = []) {c : Call} {f : Failure} :
    .ended c (.error f) ∉ (perform updates q.journal).history := by
  intro failed
  rw [(Request.history_of_stands stands).1] at failed
  rw [Context.errors_eq, (Request.history_of_stands stands).2] at none
  have logged : ⟨c.path, c.field, f.report⟩ ∈ failures (written updates) :=
    List.mem_filterMap.2 ⟨_, failed, rfl⟩
  have arranged := (List.mergeSort_perm _ fun a b => a.path.le b.path).mem_iff.2 logged
  have entry := List.mem_map_of_mem (f := fun f : FailedCall => [f.call, f.report]) arranged
  rw [Context.reports, Context.arrange] at none
  rw [none] at entry
  cases entry

/-! ## Answers -/

/-- What a request is aborted for has a sentence. -/
theorem Aborts.message_ne {j : Journal} {e : Abort} (h : Aborts r q j e) : e.message ≠ "" := by
  cases h with
  | shape => exact (ShapeFault.plain _).1.1
  | elapsed => exact elapsedMessage_ne _
  | limit => exact (Limit.Fault.plain _).1.1
  | fault asks met => exact (Unfolding.explains_unfold _ _ _ _ _ met).worded.1

/-- **A request that no time limit ends**: it has none, or an infinite one. -/
def Endless (q : Request) : Prop :=
  q.limit = .null ∨ Limit.seconds q.limit = .ok (.infinite false)

/-- **A request is answered** if a time limit ends it, or if nothing in it hangs. -/
theorem responds
    (goesOn : Endless q → ∀ y, Lane.Reaches (q.begun r) y → ¬ Hangs r y.1) :
    ∃ response, alone r q = some response := by
  by_cases endless : Endless q
  · obtain ⟨-, a, -, answer⟩ := answered_of_not_hangs (goesOn endless)
    exact ⟨_, answer⟩
  · obtain ⟨present, finite⟩ := not_or.1 endless
    cases asks : q.source.read with
    | error f => exact ⟨_, alone_of_unread asks⟩
    | ok n =>
      cases number : Limit.seconds q.limit with
      | error f => exact ⟨_, alone_of_refused number present asks⟩
      | ok x =>
        have passes : Limit.passes x = true := Limit.passes_iff.2 fun same => finite (same ▸ number)
        obtain ⟨y, -, -, same, -⟩ := exists_run r q
        rw [same, Request.respond, number]
        split
        · exact ⟨_, rfl⟩
        · exact ⟨_, if_pos passes⟩

/-- **The answer to a request in a form**, with its journal at the time of the answer. -/
structure Answered (r : Registry) (q : Request) (response : Response) (form : Envelope.Form)
    (j : Journal) : Prop where
  moment : Moment r q j
  calls : response.calls = j.calls
  /-- The answer has this form, and no other. -/
  single : ∀ form' : Envelope.Form, form'.Fits response.envelope.toFields ↔ form' = form
  ok : response.envelope.ok = true ↔ form ≠ .failure
  /-- Data alone is sent where no resolver has failed. -/
  whole : form = .data → ∀ c f, .ended c (.error f) ∉ j.history
  /-- Beside data, the log of failures is sent. -/
  log : form ≠ .failure → journal r q = some j ∧
    ∃ v, response.envelope = .success v j.context.errors
  /-- Neither is sent exactly where the request is aborted. -/
  aborted : form = .failure ↔ ∃ e, Aborts r q j e
  /-- What is sent then is the sentence of what it is aborted for. -/
  sentence : form = .failure → ∃ e, Aborts r q j e ∧
    response.envelope = .failure Envelope.processingTag e.message
  /-- No resolver is called for a call tree that does not read. -/
  unread : ∀ f, q.source.read = .error f → response.calls = []

/-- Of a moment of a request of which the call tree does not read. -/
theorem Moment.calls_of_unread {j : Journal} (moment : Moment r q j) {f : ShapeFault}
    (unread : q.source.read = .error f) : j.calls = [] := by
  rw [calls_eq, moment.unread unread]
  rfl

/-- **The answer to a request that is aborted.** -/
theorem answered_of_aborts {e : Abort} {j : Journal} (moment : Moment r q j)
    (aborts : Aborts r q j e) : Answered r q (Request.response (.error e) j) .failure j where
  moment := moment
  calls := rfl
  single form' := by
    have fits : Envelope.Form.failure.Fits
        (Envelope.failure Envelope.processingTag e.message).toFields :=
      ⟨e.message, rfl, aborts.message_ne⟩
    exact ⟨Envelope.Form.unique fits, fun same => same ▸ fits⟩
  ok := by simp [Request.response, Request.envelope, Envelope.ok]
  whole other := by cases other
  log h := absurd rfl h
  aborted := ⟨fun _ => ⟨e, aborts⟩, fun _ => rfl⟩
  sentence _ := ⟨e, aborts, rfl⟩
  unread _ unread := moment.calls_of_unread unread

/-- **The answer to a request that succeeds.** -/
theorem answered_of_ok (named : Named r) {v : Value} {updates : List (Journal → Journal)}
    (stands : (q.task r).Stands (.ended (.ok v)) updates)
    (ended : journal r q = some (perform updates q.journal))
    (answer : alone r q = some (Request.response (.ok v) (perform updates q.journal))) :
    ∃ form, Answered r q (Request.response (.ok v) (perform updates q.journal)) form
      (perform updates q.journal) := by
  have moment := moment_journal ended
  have noAbort {e : Abort} := not_aborts_of_ok stands answer (e := e)
  obtain ⟨n, asks⟩ : ∃ n, q.source.read = .ok n := by
    cases asks : q.source.read with
    | ok n => exact ⟨n, rfl⟩
    | error f => exact absurd (.shape asks) noAbort
  have told := told_of_errors named asks stands
  -- Apart from the log, the answer is the same whether or not failures are told of.
  have common (form : Envelope.Form) (succeeds : form ≠ .failure)
      (fits : form.Fits (Envelope.success v (perform updates q.journal).context.errors).toFields)
      (whole : form = .data → ∀ c f, .ended c (.error f) ∉ (perform updates q.journal).history) :
      Answered r q (Request.response (.ok v) (perform updates q.journal)) form
        (perform updates q.journal) :=
    { moment, whole, calls := rfl
      single := fun form' => ⟨Envelope.Form.unique fits, fun same => same ▸ fits⟩
      ok := ⟨fun _ => succeeds, fun _ => rfl⟩
      log := fun _ => ⟨ended, v, rfl⟩
      aborted := ⟨fun same => absurd same succeeds, fun ⟨_, aborts⟩ => absurd aborts noAbort⟩
      sentence := fun same => absurd same succeeds
      unread := fun _ unread => moment.calls_of_unread unread }
  cases errors : (perform updates q.journal).context.errors with
  | nil =>
    refine ⟨.data, common .data nofun ⟨v, ?_⟩ fun _ c f => no_failure_of_errors stands errors⟩
    rw [errors]
    rfl
  | cons first rest =>
    rw [errors] at told
    refine ⟨.dataAndErrors, common .dataAndErrors nofun ⟨v, first :: rest, ?_, nofun, told⟩ nofun⟩
    rw [errors]
    rfl

/-- **Every request is answered, in exactly one of three forms** (`Answered`), if a time limit ends it or
if nothing in it hangs. -/
theorem answered_in_one_form (named : Named r) (q : Request)
    (goesOn : Endless q → ∀ y, Lane.Reaches (q.begun r) y → ¬ Hangs r y.1) :
    ∃ response form j, alone r q = some response ∧ Answered r q response form j := by
  obtain ⟨response, answer⟩ := responds goesOn
  refine ⟨response, ?_⟩
  cases ended : journal r q with
  | some j =>
    obtain ⟨outcome, updates, stands, rfl, answer'⟩ := journal_inv ended
    cases answer.symm.trans answer'
    cases outcome with
    | ok v =>
      obtain ⟨form, answered⟩ := answered_of_ok named stands ended answer
      exact ⟨form, _, answer, answered⟩
    | error e =>
      exact ⟨.failure, _, answer, answered_of_aborts (moment_journal ended)
        (aborts_of_error stands answer)⟩
  | none =>
    -- Nothing is left to run, so the answer is that the time limit is up.
    obtain ⟨y, run, -, same, journaled⟩ := exists_run r q
    have unanswered := Option.map_eq_none_iff.1 (journaled.symm.trans ended)
    rcases Request.respond_inv (same.symm.trans answer) with
      ⟨a, answered, -⟩ | ⟨-, x, number, -, rfl⟩
    · rw [unanswered] at answered
      cases answered
    · exact ⟨.failure, y.1.state, answer, answered_of_aborts ⟨y, run, rfl⟩
        (aborts_of_unanswered number answer)⟩

/-- Where resolvers depend on nothing but their inputs, it is for their answers to name failures. -/
theorem named_of_gives {answers : Answers} (gives : r.Gives answers)
    (named : ∀ owner name args data f, answers owner name args data = .error f → f.kind ≠ "") :
    Named r := by
  rintro c f ⟨field, found, may⟩
  exact named _ _ _ _ f (may.eq_of_comesTo (gives _ _ field found _ _)).symm

/-- Two queries that fail without a word. -/
def failing : Registry := pair (.error ⟨"ValueError", ""⟩) 0

/-- A query that fails without a word is answered with null, and beside it with the kind of its
failure. -/
theorem answered_in_one_form_first : ∃ calls j,
    alone failing (firstWithin .null) =
      some ⟨.success (.single "first" .null) [["first", "ValueError"]], calls⟩ ∧
    Answered failing (firstWithin .null)
      ⟨.success (.single "first" .null) [["first", "ValueError"]], calls⟩ .dataAndErrors j := by
  have gives := gives_pair (.error ⟨"ValueError", ""⟩) 0
  have named : Named failing :=
    named_of_gives gives fun _ _ _ _ f same => Except.error.inj same ▸ by decide
  obtain ⟨response, form, j, answer, answered⟩ :=
    answered_in_one_form named (firstWithin .null) fun _ y _ => not_hangs gives.lively y.1
  have sent : alone failing (firstWithin .null) =
      some ⟨.success (.single "first" .null) (Context.reports [⟨[], "first", "ValueError"⟩]), _⟩ :=
    alone_eq ⟨1, rfl⟩ (.inl rfl)
  rw [Context.reports_singleton] at sent
  cases answer.symm.trans sent
  have told : Envelope.Form.dataAndErrors = form := (answered.single .dataAndErrors).1
    ⟨_, [["first", "ValueError"]], rfl, nofun, by simp⟩
  exact ⟨_, j, answer, told ▸ answered⟩

end Execution

end CallTree
