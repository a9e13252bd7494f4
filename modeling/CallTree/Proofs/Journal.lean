/-
# CallTree.Proofs.Journal — what a resolution may do to its journal.

There are three kinds of steps (`Journal.Step`), and each adds to the history what it would add to an
empty one (`Journal.written`). So the history after many steps is what they have written, in their
order, and the failure log is read off the history.
-/
import CallTree.Journal
import CallTree.Proofs.Task.Outcome

namespace CallTree

/-- What clients are told of a failed call. -/
def FailedCall.told (f : FailedCall) : List String := [f.call, f.report]

namespace Journal

/-- **A journal step**: a call starts or ends, or a resolver writes the state. -/
inductive Step : (Journal → Journal) → Prop where
  | start (call : Call) : Step (·.start call)
  | finish (call : Call) (outcome : Except Failure Value) : Step (·.finish call outcome)
  | setState (state : Context → Table Value) : Step fun j => j.setState (state j.context)

/-- What updates write into the history. -/
def written (updates : List (Journal → Journal)) : List Event :=
  updates.flatMap fun u => (u { context := {} }).history

/-- The entry of the failure log that an event is. -/
def Event.failed? : Event → Option FailedCall
  | .started _ => none
  | .ended _ (.ok _) => none
  | .ended call (.error f) => some ⟨call.path, call.field, f.report⟩

/-- The call that an event is about. -/
def Event.call : Event → Call
  | .started call => call
  | .ended call _ => call

/-- The call that starts with an event. -/
def Event.started? : Event → Option Call
  | .started call => some call
  | .ended _ _ => none

/-- The call that ends with an event. -/
def Event.ended? : Event → Option Call
  | .started _ => none
  | .ended call _ => some call

/-- The failures in a history. -/
def failures (history : List Event) : List FailedCall := history.filterMap Event.failed?

/-- The calls in a history, in the order in which they start. -/
def startedIn (history : List Event) : List Call := history.filterMap Event.started?

/-- The calls that have ended in a history. -/
def endedIn (history : List Event) : List Call := history.filterMap Event.ended?

/-- What is told of the call at a position. -/
def told : List Event → Path → Option (Except Failure Value)
  | [], _ => none
  | .started _ :: history, path => told history path
  | .ended call outcome :: history, path =>
    if call.path = path then some outcome else told history path

theorem calls_eq (j : Journal) : j.calls = startedIn j.history := rfl

theorem failures_append (history later : List Event) :
    failures (history ++ later) = failures history ++ failures later :=
  List.filterMap_append

theorem startedIn_append (history later : List Event) :
    startedIn (history ++ later) = startedIn history ++ startedIn later :=
  List.filterMap_append

theorem endedIn_append (history later : List Event) :
    endedIn (history ++ later) = endedIn history ++ endedIn later :=
  List.filterMap_append

theorem failures_perm {history history' : List Event} (same : history.Perm history') :
    (failures history).Perm (failures history') :=
  same.filterMap _

theorem startedIn_perm {history history' : List Event} (same : history.Perm history') :
    (startedIn history).Perm (startedIn history') :=
  same.filterMap _

/-- **What clients are told of the failures** in a history, in its order. -/
def reported (history : List Event) : List (List String) := (failures history).map FailedCall.told

theorem reported_append (history later : List Event) :
    reported (history ++ later) = reported history ++ reported later := by
  rw [reported, failures_append, List.map_append]
  rfl

theorem reported_perm {history history' : List Event} (same : history.Perm history') :
    (reported history).Perm (reported history') :=
  (failures_perm same).map _

theorem mem_startedIn {history : List Event} {c : Call} :
    c ∈ startedIn history ↔ .started c ∈ history := by
  constructor
  · intro h
    obtain ⟨e, mem, started⟩ := List.mem_filterMap.1 h
    match e, started with
    | .started _, rfl => exact mem
  · exact fun mem => List.mem_filterMap.2 ⟨_, mem, rfl⟩

theorem mem_endedIn {history : List Event} {c : Call} :
    c ∈ endedIn history ↔ ∃ outcome, .ended c outcome ∈ history := by
  constructor
  · intro h
    obtain ⟨e, mem, ended⟩ := List.mem_filterMap.1 h
    match e, ended with
    | .ended _ outcome, rfl => exact ⟨outcome, mem⟩
  · exact fun ⟨outcome, mem⟩ => List.mem_filterMap.2 ⟨_, mem, rfl⟩

/-- What is told of a call is what it has come to, where no two calls that have ended share a
position. -/
theorem told_of_ended {history : List Event} (once : ((endedIn history).map Call.path).Nodup)
    {c : Call} {outcome : Except Failure Value} (ended : .ended c outcome ∈ history) :
    told history c.path = some outcome := by
  induction history with
  | nil => cases ended
  | cons e history ih =>
    cases e with
    | started call =>
      rcases List.mem_cons.1 ended with here | later
      · cases here
      · exact ih once later
    | ended call result =>
      obtain ⟨first, once'⟩ := List.nodup_cons.1 once
      rcases List.mem_cons.1 ended with here | later
      · cases here
        rw [told, if_pos rfl]
      · have other : call.path ≠ c.path := fun same =>
          first (same ▸ List.mem_map_of_mem (mem_endedIn.2 ⟨_, later⟩))
        rw [told, if_neg other]
        exact ih once' later

/-- A failure in a history is of a call that is told of there. -/
theorem exists_of_mem_failures {history : List Event} {f : FailedCall} (h : f ∈ failures history) :
    ∃ e ∈ history, e.call.path = f.path := by
  obtain ⟨e, mem, failed⟩ := List.mem_filterMap.1 h
  refine ⟨e, mem, ?_⟩
  match e, failed with
  | .ended call (.error g), rfl => rfl

theorem written_append (updates later : List (Journal → Journal)) :
    written (updates ++ later) = written updates ++ written later :=
  List.flatMap_append

theorem written_perm {updates updates' : List (Journal → Journal)} (h : updates.Perm updates') :
    (written updates).Perm (written updates') :=
  h.flatMap_right _

theorem written_subset {updates updates' : List (Journal → Journal)} (h : updates ⊆ updates') :
    written updates ⊆ written updates' := by
  intro e mem
  obtain ⟨u, hu, here⟩ := List.mem_flatMap.1 mem
  exact List.mem_flatMap.2 ⟨u, h hu, here⟩

theorem written_start (call : Call) (updates : List (Journal → Journal)) :
    written ((·.start call) :: updates) = .started call :: written updates := rfl

theorem written_setState (state : Context → Table Value) (updates : List (Journal → Journal)) :
    written ((fun j => j.setState (state j.context)) :: updates) = written updates := rfl

/-- A step adds to the history, and to the failure log if it tells of a failure. -/
theorem Step.adds {u : Journal → Journal} (h : Step u) (j : Journal) :
    (u j).history = j.history ++ written [u] ∧
      (u j).context.failures = j.context.failures ++ failures (written [u]) := by
  cases h with
  | start call => exact ⟨rfl, (List.append_nil _).symm⟩
  | finish call outcome =>
    cases outcome with
    | ok v => exact ⟨rfl, (List.append_nil _).symm⟩
    | error f => exact ⟨rfl, rfl⟩
  | setState state => exact ⟨(List.append_nil _).symm, (List.append_nil _).symm⟩

/-- **The journal after steps.** -/
theorem perform_adds {updates : List (Journal → Journal)} (steps : ∀ u ∈ updates, Step u)
    (j : Journal) :
    (perform updates j).history = j.history ++ written updates ∧
      (perform updates j).context.failures = j.context.failures ++ failures (written updates) := by
  induction updates generalizing j with
  | nil => exact ⟨(List.append_nil _).symm, (List.append_nil _).symm⟩
  | cons u updates ih =>
    have first := (steps u List.mem_cons_self).adds j
    obtain ⟨history, failed⟩ := ih (fun v mem => steps v (List.mem_cons_of_mem _ mem)) (u j)
    have split : written (u :: updates) = written [u] ++ written updates :=
      written_append [u] updates
    have goesOn : perform (u :: updates) j = perform updates (u j) := rfl
    rw [goesOn, history, failed, first.1, first.2, split, failures_append]
    exact ⟨List.append_assoc .., List.append_assoc ..⟩

end Journal

end CallTree
