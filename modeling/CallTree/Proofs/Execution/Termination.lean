/-
# CallTree.Proofs.Execution.Termination — requests come to an end, and what a time limit means.

While a request is unanswered something is due for it, unless one of the resolvers that were called
hangs (`Execution.hangs_of_quiet`). So a request in which nothing hangs is answered after finitely many
turns, whatever its resolvers do. A positive time limit adds a task above the resolution and changes
nothing else (`CallTree.Proofs.Task.Nested`): it tells of itself exactly when nothing is left to run,
and else the request is answered as it is without it. A limit of zero or less lets nothing run.
-/
import CallTree.Proofs.Execution.Moments
import CallTree.Proofs.Execution.Schedules
import CallTree.Proofs.Limit
import CallTree.Proofs.Task.Nested

namespace CallTree

/-- A request without its time limit. -/
def Request.unlimited (q : Request) : Request := { q with limit := .null }

namespace Execution

open Journal

variable {r : Registry} {q : Request}

/-! ## Hanging -/

/-- **A resolver that was called hangs** in a lane: a process there never comes back, and among the
calls that have started and not ended there is one of a resolver that may hang. -/
def Hangs (r : Registry) (l : Lane Journal Abort Value) : Prop :=
  (∃ place, l.root.stage? place = some .hung) ∧
    ∃ c ∈ l.state.calls, c ∉ endedIn l.state.history ∧ r.MayHang c

/-- **A request that is not answered when nothing is due**, because a resolver hangs. -/
theorem hangs_of_quiet {y : Lane Journal Abort Value × List Due}
    (run : Lane.Reaches (q.begun r) y) (unanswered : y.1.answer = none) (quiet : y.2 = []) :
    Hangs r y.1 := by
  rcases run.answered_or_stuck (.inr quiet) with answered | ⟨⟨updates, state, stuck⟩, hung⟩
  · rw [unanswered] at answered
    cases answered
  · refine ⟨hung, ?_⟩
    cases asks : q.source.read with
    | error f => rcases (Request.stands_of_unread asks stuck).2 with same | same <;> cases same
    | ok n =>
      obtain ⟨stood, own, shows⟩ := Request.stands_of_task asks stuck
      cases shows with
      | same =>
        obtain ⟨once, ⟨left, accounts⟩, -⟩ := seen_of_stands own
        obtain ⟨c, waits, may⟩ := accounts.hangs rfl
        have history : y.1.state.history = written updates := by
          rw [state]
          exact (Request.history_of_stands stuck).1
        -- The call is one of the open ones, so it has started, and it has not ended.
        have apart := (accounts.perm.map Call.path).nodup_iff.1 once
        rw [List.map_append, List.nodup_append] at apart
        refine ⟨c, ?_, fun ended => ?_, may⟩
        · rw [calls_eq, history]
          exact accounts.perm.mem_iff.2 (List.mem_append_right _ waits)
        · rw [history] at ended
          exact apart.2.2 _ (List.mem_map_of_mem ended) _ (List.mem_map_of_mem waits) rfl

/-- **A request in which nothing hangs is answered** after finitely many turns. -/
theorem answered_of_not_hangs (lively : ∀ y, Lane.Reaches (q.begun r) y → ¬ Hangs r y.1) :
    ∃ turns a, (Lane.turn^[turns] (q.begun r)).1.answer = some a ∧
      alone r q = some (Request.response a.outcome a.state) := by
  obtain ⟨y, run, finished, same, -⟩ := exists_run r q
  cases answer : y.1.answer with
  | none =>
    rcases finished with answered | quiet
    · rw [answer] at answered
      cases answered
    · exact absurd (hangs_of_quiet run answer quiet) (lively y run)
  | some a =>
    obtain ⟨turns, rfl⟩ := run
    exact ⟨turns, a, answer, by rw [same, Request.respond, answer]⟩

/-! ## Time limits -/

/-- The answer to a request of which the time limit is up. -/
def timedOut (x : Binary64) : Envelope :=
  .failure Envelope.processingTag (Limit.elapsedMessage x)

/-- **A request that comes to a standstill**: nothing is due, and it is not answered. -/
def Stalls (r : Registry) (q : Request) : Prop :=
  ∃ y, Lane.Reaches (q.begun r) y ∧ y.2 = [] ∧ y.1.answer = none

/-- A request that comes to its end without letting others run. -/
theorem alone_of_ended {outcome : Except Abort Value} {j : Journal}
    (ended : (q.task r).advance q.journal = (.ended outcome, j)) :
    alone r q = some (Request.response outcome j) := by
  have ends := Lane.turn_begun_of_ended ended
  have run : Lane.Reaches (q.begun r) _ := .turn _
  rw [Request.begun, ends] at run
  exact alone_eq run (.inl rfl)

/-- The journal of a request that comes to its end so. -/
theorem journal_of_ended {outcome : Except Abort Value} {j : Journal}
    (ended : (q.task r).advance q.journal = (.ended outcome, j)) : journal r q = some j := by
  have ends := Lane.turn_begun_of_ended ended
  have run : Lane.Reaches (q.begun r) _ := .turn _
  rw [Request.begun, ends] at run
  exact journal_eq run (.inl rfl)

/-- A request that fails at once. -/
theorem alone_of_fail {e : Abort} (fails : q.task r = .fail e) :
    alone r q = some ⟨.failure Envelope.processingTag e.message, []⟩ :=
  alone_of_ended (j := q.journal) (by rw [fails]; rfl)

/-- A request that does not read. -/
theorem alone_of_unread {f : ShapeFault} (unread : q.source.read = .error f) :
    alone r q = some ⟨.failure Envelope.processingTag f.text, []⟩ :=
  alone_of_fail (e := .shape f) (by rw [Request.task, unread])

/-- The task of a request that reads. -/
theorem task_of_read {n : Node} (asks : q.source.read = .ok n) :
    q.task r = Request.limited q.limit (Request.resolution r n) := by
  rw [Request.task, asks]
  rfl

/-- The task of a request that reads, if it has no time limit. -/
theorem task_of_no_limit {n : Node} (asks : q.source.read = .ok n) (unlimited : q.limit = .null) :
    q.task r = Request.resolution r n := by
  rw [task_of_read asks, unlimited]
  rfl

/-- The task of a request that reads, without its time limit. -/
theorem task_unlimited {n : Node} (asks : q.source.read = .ok n) :
    q.unlimited.task r = Request.resolution r n :=
  task_of_no_limit (q := q.unlimited) asks rfl

/-- A limit that is no number of seconds fails the request. -/
theorem alone_of_refused {f : Limit.Fault} {n : Node} (refused : Limit.seconds q.limit = .error f)
    (present : q.limit ≠ .null) (asks : q.source.read = .ok n) :
    alone r q = some ⟨.failure Envelope.processingTag f.message, []⟩ := by
  apply alone_of_fail (e := .limit f)
  rw [Request.task, asks]
  simp only
  rw [Request.limited, if_neg (mt (Value.isNull_iff _).1 present), refused]

/-- A request of which the limit is up soon comes to its end with what its resolution has come to early, or
with the limit. -/
theorem advance_of_atOnce {x : Binary64} {n : Node} (asks : q.source.read = .ok n)
    (number : Limit.seconds q.limit = .ok x) (atOnce : Limit.kind x = .atOnce) :
    (q.task r).advance q.journal =
      (.ended (((Request.resolution r n).early q.journal).1.getD (.error (.elapsed x))),
        ((Request.resolution r n).early q.journal).2) := by
  rw [task_of_read asks, (Request.limited_of_seconds number _).2.1 atOnce]
  exact Task.advance_atOnce _ _ _

/-- **A request of which the limit is up soon** is answered so. -/
theorem alone_of_atOnce {x : Binary64} {n : Node} (asks : q.source.read = .ok n)
    (number : Limit.seconds q.limit = .ok x) (atOnce : Limit.kind x = .atOnce) :
    alone r q = some (Request.response
      (((Request.resolution r n).early q.journal).1.getD (.error (.elapsed x)))
      ((Request.resolution r n).early q.journal).2) :=
  alone_of_ended (advance_of_atOnce asks number atOnce)

/-- Without a time limit, what is not answered stalls. -/
theorem stalls_iff : Stalls r q.unlimited ↔ alone r q.unlimited = none := by
  obtain ⟨y, run, finished, same, -⟩ := exists_run r q.unlimited
  constructor
  · rintro ⟨z, reaches, quiet, unanswered⟩
    rw [alone_eq reaches (.inr quiet), Request.respond, unanswered]
    rfl
  · intro none_
    rw [same, Request.respond] at none_
    split at none_
    · cases none_
    · rename_i unanswered
      refine ⟨y, run, finished.resolve_left fun answered => ?_, unanswered⟩
      rw [unanswered] at answered
      cases answered

/-- What is answered does not stall. -/
theorem not_stalls {response : Response} (plainly : alone r q.unlimited = some response) :
    ¬ Stalls r q.unlimited := fun still => by
  rw [stalls_iff.1 still] at plainly
  cases plainly

/-- The answer of a request without a time limit is not that a limit is up. -/
theorem ne_timedOut {response : Response} (h : alone r q.unlimited = some response)
    (x : Binary64) : response.envelope ≠ timedOut x := by
  obtain ⟨y, run, -, same, -⟩ := exists_run r q.unlimited
  rcases Request.respond_inv (same.symm.trans h) with ⟨a, answer, rfl⟩ | ⟨-, _, number, -⟩
  · obtain ⟨updates, -, stands⟩ := (run.kept (Lane.kept_begun _ _)).sound.answered a answer
    intro up
    cases outcome : a.outcome with
    | ok v =>
      rw [outcome] at up
      cases up
    | error e =>
      rw [outcome] at up stands
      have message : e.message = Limit.elapsedMessage x := (Envelope.failure.inj up).2
      rcases Request.worded_of_stands stands with worded | ⟨_, number, -⟩
      · exact worded.2 x message
      · cases number
  · cases number

/-- **A positive limit** adds one task above the resolution. The request is answered as it is without
the limit, or else, if it stalls without it, with the limit, provided that its seconds ever pass. -/
theorem alone_of_idle {x : Binary64} (number : Limit.seconds q.limit = .ok x)
    (idle : Limit.kind x = .idle) :
    (alone r q.unlimited = none ∧
      ∃ calls, alone r q = if Limit.passes x then some ⟨timedOut x, calls⟩ else none) ∨
    ∃ response plain, alone r q = some response ∧ alone r q.unlimited = some plain ∧
      response.envelope = plain.envelope := by
  cases asks : q.source.read with
  | error f =>
    exact .inr ⟨_, _, alone_of_unread asks, alone_of_unread (q := q.unlimited) asks, rfl⟩
  | ok n =>
    have waits : q.begun r = Lane.begun (Request.awaiting (Request.resolution r n)) q.journal := by
      rw [Request.begun, task_of_read asks]
      exact congrArg (Lane.begun · _) ((Request.limited_of_seconds number _).2.2 idle)
    have plainly : q.unlimited.begun r = Lane.begun (Request.resolution r n) q.journal := by
      rw [Request.begun, task_unlimited asks]
      rfl
    -- With the limit, the lane is the one without it, one level further down.
    obtain ⟨y, run, finished, same, -⟩ := exists_run r q
    rw [waits] at run
    obtain ⟨z, run', finished', state, answers⟩ := run.finished_nested (fun v => rfl) finished
    rw [← plainly] at run'
    rw [same, alone_eq run' finished']
    rcases answers with ⟨none_, none'⟩ | ⟨a, s, plain, answer, settled⟩
    · refine .inl ⟨?_, y.1.state.calls, ?_⟩
      · rw [Request.respond, none_]
        rfl
      · rw [Request.respond, none', number]
        rfl
    · refine .inr ⟨Request.response a.outcome s, Request.response a.outcome a.state, ?_, ?_, ?_⟩
      · rw [Request.respond, answer]
      · rw [Request.respond, plain]
      · cases outcome : a.outcome with
        | ok v => rw [settled v outcome]
        | error e => rfl

/-- **At every moment under a time limit** the journal is one that there is without it, or the limit has been
up soon. -/
theorem Moment.unlimited {j : Journal} (h : Moment r q j) : Moment r q.unlimited j ∨
    ∃ n, q.source.read = .ok n ∧ j = ((Request.resolution r n).early q.journal).2 := by
  obtain ⟨y, run, rfl⟩ := h
  have first : Moment r q.unlimited q.journal := ⟨_, .refl _, rfl⟩
  have failed {e : Abort} (fails : q.task r = .fail e) : Moment r q.unlimited y.1.state := by
    have ended : (q.task r).advance q.journal = (.ended (.error e), q.journal) := by rw [fails]; rfl
    rcases run.of_ended ended with rfl | rfl
    · exact first
    · rw [Lane.turn_begun_of_ended ended]
      exact first
  cases asks : q.source.read with
  | error f => exact .inl (failed (e := .shape f) (by rw [Request.task, asks]))
  | ok n =>
    have plainly : q.unlimited.begun r = Lane.begun (Request.resolution r n) q.journal := by
      rw [Request.begun, task_unlimited asks]
      rfl
    have task := task_of_read (r := r) asks
    by_cases absent : q.limit.isNull
    · rw [Request.limited, if_pos absent] at task
      exact .inl ⟨y, by rwa [plainly, ← task], rfl⟩
    · cases number : Limit.seconds q.limit with
      | error f =>
        rw [Request.limited, if_neg absent, number] at task
        exact .inl (failed task)
      | ok x =>
        obtain ⟨before, -, idle⟩ := Request.limited_of_seconds number (Request.resolution r n)
        cases kind : Limit.kind x with
        | before => exact .inl (failed (task.trans (before kind)))
        | atOnce =>
          have cut := advance_of_atOnce (r := r) asks number kind
          rcases run.of_ended cut with rfl | rfl
          · exact .inl first
          · rw [Lane.turn_begun_of_ended cut]
            exact .inr ⟨n, rfl, rfl⟩
        | idle =>
          rw [Request.begun, task, idle kind] at run
          rcases run.nested (fun v => rfl) with rfl | ⟨z, run', nested⟩
          · exact .inl first
          · cases nested with
            | mk above queue => exact .inl ⟨z, by rwa [plainly], rfl⟩

/-- **A request under a time limit** is answered as it is without it, unless the limit puts its own end
to it. If that is up soon, the answer may be what the resolution has come to until then. -/
theorem alone_or_cut {plain : Response} (plainly : alone r q.unlimited = some plain) :
    ∃ response, alone r q = some response ∧
      ((∃ e, Request.Cut q.limit e ∧
          response.envelope = .failure Envelope.processingTag e.message) ∨
        response.envelope = plain.envelope ∨
        ∃ n outcome, q.source.read = .ok n ∧
          ((Request.resolution r n).early q.journal).1 = some outcome ∧
          response = Request.response outcome ((Request.resolution r n).early q.journal).2) := by
  by_cases absent : q.limit.isNull
  · have same : q.unlimited = q := by
      rw [Request.unlimited, ← (Value.isNull_iff _).1 absent]
    rw [same] at plainly
    exact ⟨plain, plainly, .inr (.inl rfl)⟩
  have present : q.limit ≠ .null := mt (Value.isNull_iff _).2 absent
  cases asks : q.source.read with
  | error f =>
    cases plainly.symm.trans (alone_of_unread (q := q.unlimited) asks)
    exact ⟨_, alone_of_unread asks, .inr (.inl rfl)⟩
  | ok n =>
    have task := task_of_read (r := r) asks
    cases number : Limit.seconds q.limit with
    | error f =>
      exact ⟨_, alone_of_refused number present asks,
        .inl ⟨.limit f, ⟨present, .inl ⟨f, number, rfl⟩⟩, rfl⟩⟩
    | ok x =>
      obtain ⟨before, -, -⟩ := Request.limited_of_seconds number (Request.resolution r n)
      have cut (early : Limit.kind x ≠ .idle) : Request.Cut q.limit (.elapsed x) :=
        ⟨present, .inr ⟨x, number, early, rfl⟩⟩
      cases kind : Limit.kind x with
      | before =>
        exact ⟨_, alone_of_fail (task.trans (before kind)),
          .inl ⟨_, cut (by rw [kind]; intro same; cases same), rfl⟩⟩
      | atOnce =>
        refine ⟨_, alone_of_atOnce asks number kind, ?_⟩
        cases early : ((Request.resolution r n).early q.journal).1 with
        | none => exact .inl ⟨_, cut (by rw [kind]; intro same; cases same), rfl⟩
        | some outcome => exact .inr (.inr ⟨n, outcome, rfl, early, rfl⟩)
      | idle =>
        obtain ⟨unanswered, -⟩ | ⟨response, plain', answer, plainly', same⟩ :=
          alone_of_idle (r := r) number kind
        · rw [unanswered] at plainly
          cases plainly
        · cases plainly.symm.trans plainly'
          exact ⟨response, answer, .inr (.inl same)⟩

/-- **Under a positive limit, a request is answered with the limit** exactly when it stalls without one
and the seconds pass. -/
theorem timedOut_iff_stalls {x : Binary64} (number : Limit.seconds q.limit = .ok x)
    (idle : Limit.kind x = .idle) :
    (∃ response, alone r q = some response ∧ response.envelope = timedOut x) ↔
      Stalls r q.unlimited ∧ Limit.passes x = true := by
  obtain ⟨unanswered, calls, same⟩ | ⟨response, plain, answer, plainly, same⟩ :=
    alone_of_idle (r := r) number idle
  · constructor
    · rintro ⟨response, answer, -⟩
      refine ⟨stalls_iff.2 unanswered, ?_⟩
      by_contra endless
      rw [same, if_neg endless] at answer
      cases answer
    · rintro ⟨-, passes⟩
      exact ⟨_, same.trans (if_pos passes), rfl⟩
  · constructor
    · rintro ⟨response', answer', up⟩
      cases answer.symm.trans answer'
      exact absurd (same.symm.trans up) (ne_timedOut plainly x)
    · rintro ⟨still, -⟩
      exact absurd still (not_stalls plainly)

/-- A query of which the resolver never comes back. -/
def silent : Registry where
  root := [("first",
    { name := "first", type := .ofName false "String!", resolve := fun _ _ => .hang })]

/-- A request for a query, with a time limit. -/
def firstWithin (limit : Value) : Request := { source := .call (.leaf "first"), limit }

end Execution

end CallTree
