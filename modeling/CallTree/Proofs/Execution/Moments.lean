/-
# CallTree.Proofs.Execution.Moments — a request at every moment of its execution.

A request is looked at in the middle of its execution, whatever becomes of it: when it succeeds, when it
is aborted or its time is up, and when it never comes to an end. Whatever requests are executed beside
it, its journal is at each moment one that it has when it is executed by itself (`moment_turns`).

What is known of the journal at any moment is put together in `Seen`: no call starts twice, the books of
its calls balance, and it keeps to the unfolded call tree.
-/
import CallTree.Proofs.Context
import CallTree.Proofs.Execution.Alone
import CallTree.Proofs.Resolution.Causality
import CallTree.Proofs.Resolution.Faults
import CallTree.Proofs.Resolution.Once

namespace CallTree

open Journal

/-- **The unfolded call tree of a request**, along what a history tells of its calls. -/
abbrev Node.plan (r : Registry) (n : Node) (history : List Event) : Plan Value :=
  Unfolding.unfold r (told history) n Registry.rootName .null []

/-- **What is known of a history** when the resolution of a call tree stands so. -/
structure Seen (r : Registry) (n : Node) (stood : Standing Abort Value) (history : List Event) :
    Prop where
  once : ((startedIn history).map Call.path).Nodup
  accounts : ∃ left, Resolution.Accounts r stood history left
  keeps : (n.plan r history).Keeps stood history

/-- What is told of calls is true, where the books balance and no call starts twice. -/
theorem tells_of_accounts {r : Registry} {stood : Standing Abort Value} {history : List Event}
    {left : List Call} (once : ((startedIn history).map Call.path).Nodup)
    (accounts : Resolution.Accounts r stood history left) :
    Resolution.Tells (told history) history := by
  have both := (accounts.perm.map Call.path).nodup_iff.1 once
  rw [List.map_append] at both
  exact fun c outcome ended => told_of_ended (List.nodup_append.1 both).1 ended

/-- **Whatever a resolution has done so far**, this is known of it. -/
theorem seen_of_stands {r : Registry} {n : Node} {stood : Standing Abort Value}
    {updates : List (Journal → Journal)} (stands : (Request.resolution r n).Stands stood updates) :
    Seen r n stood (written updates) := by
  have within := Scope.in_of r Registry.rootName .null
  obtain ⟨-, once⟩ := Resolution.confined_resolve r n _ [] stood updates stands
  obtain ⟨left, accounts⟩ :=
    (Resolution.inherited_accounted r).resolve n _ [] within stood updates stands
  have keeps := Resolution.follows_resolve r (told (written updates)) n _ [] within stood updates
    stands (tells_of_accounts once accounts)
  exact ⟨once, ⟨left, accounts⟩, keeps⟩

namespace Request

variable {r : Registry} {q : Request}

/-- The journal of a request after the updates of its task. -/
theorem history_of_stands {standing : Standing Abort Value} {updates : List (Journal → Journal)}
    (stands : (q.task r).Stands standing updates) :
    (perform updates q.journal).history = written updates ∧
      (perform updates q.journal).context.failures = failures (written updates) := by
  have steps : ∀ u ∈ updates, Journal.Step u := by
    cases asks : q.source.read with
    | error f =>
      rw [(stands_of_unread asks stands).1]
      exact nofun
    | ok n =>
      obtain ⟨stood, own, -⟩ := stands_of_task asks stands
      have within := Scope.in_of r Registry.rootName .null
      exact ((Resolution.inherited_acts r).resolve n _ [] within).of_stands own
  exact perform_adds steps q.journal

/-- **What a request fails with**: a fault of its shape, the end that its time limit puts to it, or a
fault that the unfolded tree meets. -/
theorem error_of_stands {e : Abort} {updates : List (Journal → Journal)}
    (stands : (q.task r).Stands (.ended (.error e)) updates) :
    (∃ f, q.source.read = .error f ∧ e = .shape f) ∨
      ∃ n, q.source.read = .ok n ∧ (Cut q.limit e ∨ e ∈ (n.plan r (written updates)).faults) := by
  cases asks : q.source.read with
  | error f =>
    obtain ⟨-, same | same⟩ := stands_of_unread asks stands
    · cases same
    · cases same
      exact .inl ⟨f, rfl, rfl⟩
  | ok n =>
    obtain ⟨stood, own, shows⟩ := stands_of_task asks stands
    refine .inr ⟨n, rfl, ?_⟩
    cases shows with
    | same => exact .inr ((seen_of_stands own).keeps.failed e rfl)
    | cut early => exact .inl early

/-- A request that fails has words for it of its own, unless its time limit is up. -/
theorem worded_of_stands {e : Abort} {updates : List (Journal → Journal)}
    (stands : (q.task r).Stands (.ended (.error e)) updates) :
    Worded e.message ∨ ∃ x, Limit.seconds q.limit = .ok x ∧ Limit.kind x ≠ .idle ∧ e = .elapsed x := by
  rcases error_of_stands stands with ⟨f, -, rfl⟩ | ⟨n, -, ⟨-, ⟨f, -, rfl⟩ | elapsed⟩ | mem⟩
  · exact .inl f.plain.1
  · exact .inl f.plain.1
  · exact .inr elapsed
  · exact .inl (Unfolding.explains_unfold n _ _ _ e mem).worded

end Request

namespace Execution

/-- **`Moment r q j`** — at some moment of the execution of a request, its journal is `j`. -/
def Moment (r : Registry) (q : Request) (j : Journal) : Prop :=
  ∃ y, Lane.Reaches (q.begun r) y ∧ y.1.state = j

variable {r : Registry} {q : Request} {j : Journal}

/-- **Moments of requests that are executed together** are moments of each by itself. -/
theorem moment_turns {qs : List Request} {m : Machine qs.length Journal Abort Value}
    (run : Relation.ReflTransGen (fun a b : Machine qs.length Journal Abort Value =>
      a.turn? = some b) (Machine.start (roots r qs)) m) (i : Fin qs.length) :
    Moment r (qs.get i) (m.lanes.get i).state := by
  have reaches := Machine.reaches_turns run i
  rw [view_together] at reaches
  exact ⟨_, reaches, rfl⟩

/-- The moment of an answer. -/
theorem moment_journal (h : journal r q = some j) : Moment r q j := by
  obtain ⟨y, reaches, -, -, same⟩ := exists_run r q
  rw [same, Option.map_eq_some_iff] at h
  obtain ⟨a, answer, rfl⟩ := h
  exact reaches.answered_at answer

/-- A response tells of the calls of some moment. -/
theorem moment_of_response {response : Response} (h : alone r q = some response) :
    ∃ j, Moment r q j ∧ response.calls = j.calls := by
  obtain ⟨y, reaches, -, same, -⟩ := exists_run r q
  rw [same] at h
  rcases Request.respond_inv h with ⟨a, answer, rfl⟩ | ⟨-, x, -, -, rfl⟩
  · exact ⟨a.state, reaches.answered_at answer, rfl⟩
  · exact ⟨y.1.state, ⟨y, reaches, rfl⟩, rfl⟩

/-- **The journal of an answer** is that of a task that has ended, and the response tells of both. -/
theorem journal_inv (h : journal r q = some j) :
    ∃ outcome updates, (q.task r).Stands (.ended outcome) updates ∧ j = perform updates q.journal ∧
      alone r q = some (Request.response outcome j) := by
  obtain ⟨y, reaches, -, same, journaled⟩ := exists_run r q
  rw [journaled, Option.map_eq_some_iff] at h
  obtain ⟨a, answer, rfl⟩ := h
  obtain ⟨updates, state, stands⟩ := (reaches.kept (Lane.kept_begun _ _)).sound.answered a answer
  exact ⟨a.outcome, updates, stands, state, by rw [same, Request.respond, answer]⟩

/-- What a moment shows. -/
theorem Moment.stands (h : Moment r q j) :
    ∃ updates, (q.task r).Stands .underway updates ∧ j.history = written updates := by
  obtain ⟨y, reaches, rfl⟩ := h
  obtain ⟨updates, state, stands⟩ := reaches.underway
  exact ⟨updates, stands, by rw [state]; exact (Request.history_of_stands stands).1⟩

/-- **At every moment** this is known of a request of which the call tree reads. -/
theorem Moment.seen {n : Node} (h : Moment r q j) (asks : q.source.read = .ok n) :
    Seen r n .underway j.history := by
  obtain ⟨updates, stands, history⟩ := h.stands
  obtain ⟨stood, own, -⟩ := Request.stands_of_task asks stands
  obtain ⟨once, ⟨left, accounts⟩, keeps⟩ := seen_of_stands own
  rw [history]
  exact ⟨once, ⟨left, accounts.perm, nofun, nofun⟩, keeps.ordered, nofun, nofun⟩

/-- No call is made for a request of which the call tree does not read. -/
theorem Moment.unread {f : ShapeFault} (h : Moment r q j) (unread : q.source.read = .error f) :
    j.history = [] := by
  obtain ⟨updates, stands, history⟩ := h.stands
  rw [history, (Request.stands_of_unread unread stands).1]
  rfl

/-- **The journal of a success**: the response tells of its calls and its failures, and of the
resolution that has ended with the data this is known. -/
theorem success_inv {n : Node} {data : Value} {errors : List (List String)} {calls : List Call}
    (asks : q.source.read = .ok n) (success : alone r q = some ⟨.success data errors, calls⟩) :
    ∃ j, journal r q = some j ∧ calls = j.calls ∧
      errors = Context.reports (failures j.history) ∧ Seen r n (.ended (.ok data)) j.history := by
  rcases alone_inv success with ⟨_, _, _, journaled, -⟩ | ⟨x, j, -, same⟩
  · obtain ⟨outcome, updates, stands, state, same⟩ := journal_inv journaled
    rw [state] at journaled same
    rw [success] at same
    cases outcome with
    | error e => cases same
    | ok v =>
      cases same
      obtain ⟨history, failed⟩ := Request.history_of_stands stands
      obtain ⟨stood, own, shows⟩ := Request.stands_of_task asks stands
      cases shows with
      | same =>
        refine ⟨_, journaled, rfl, ?_, ?_⟩
        · rw [Context.errors_eq, failed, history]
        · rw [history]
          exact seen_of_stands own
  · cases same

end Execution

end CallTree
