/-
# CallTree.Proofs.Execution.Limits — requests under a time limit.

A time limit puts its own end to the resolution of a call tree, or none. A success under a limit is a
success of the resolution itself (`Request.ends_of_task`). If the limit is up only when nothing is left
to run (`Request.Patient`), a failure is one of the resolution too, and a request hangs only if a
resolver does. At any moment, what a request shows is what its resolution shows, unless the limit cuts
it short (`Request.Shows`, `Request.stands_of_task`).
-/
import CallTree.Proofs.Check
import CallTree.Proofs.Resolution.Inherited
import CallTree.Proofs.Task.Standing

namespace CallTree

namespace Request

/-- **A request without a time limit**, or with one that is up only when nothing is left to run. -/
def Patient (q : Request) : Prop :=
  q.limit = .null ∨ ∃ x, Limit.seconds q.limit = .ok x ∧ Limit.kind x = .idle

/-- Waiting for one task. -/
def awaiting (resolution : Work) : Work :=
  .gatherAll [resolution] fun results => .succeed (results.headD .null)

/-- A resolution under a time limit that is a number of seconds: it does not run, it is cut short, or
it is waited for. -/
theorem limited_of_seconds {limit : Value} {x : Binary64} (seconds : Limit.seconds limit = .ok x)
    (resolution : Work) :
    (Limit.kind x = .before → limited limit resolution = .fail (.elapsed x)) ∧
      (Limit.kind x = .atOnce → limited limit resolution = resolution.atOnce (.elapsed x)) ∧
      (Limit.kind x = .idle → limited limit resolution = awaiting resolution) := by
  have present : ¬ limit.isNull = true := fun null => by
    rw [(Value.isNull_iff _).1 null] at seconds
    cases seconds
  rw [limited, if_neg present, seconds]
  simp only
  exact ⟨fun before => by rw [before], fun atOnce => by rw [atOnce], fun idle => by rw [idle]; rfl⟩

theorem Patient.limited_eq {q : Request} (h : q.Patient) (resolution : Work) :
    limited q.limit resolution = resolution ∨ limited q.limit resolution = awaiting resolution := by
  rcases h with unlimited | ⟨x, seconds, idle⟩
  · rw [unlimited]
    exact .inl rfl
  · exact .inr ((limited_of_seconds seconds resolution).2.2 idle)

theorem ends_of_awaiting {resolution : Work} {v : Value} {updates : List (Journal → Journal)}
    (ends : (awaiting resolution).Ends (.ok v) updates) :
    ∃ updates', resolution.Ends (.ok v) updates' ∧ updates.Perm updates' := by
  rcases ends.gatherAll_inv with ⟨runs, mixed, later, ran, mixes, rest, rfl⟩ | ⟨_, _, _, _, failed, _⟩
  · cases ran with
    | @cons _ run _ _ here others =>
      cases others
      cases rest
      rw [List.append_nil]
      simp only [List.flatMap_cons, List.flatMap_nil, List.append_nil] at mixes
      exact ⟨run.2, here, mixes⟩
  · cases failed

theorem fails_of_awaiting {resolution : Work} {e : Abort} {updates : List (Journal → Journal)}
    (ends : (awaiting resolution).Ends (.error e) updates) :
    ∃ updates', resolution.Ends (.error e) updates' := by
  rcases ends.gatherAll_inv with ⟨_, _, _, _, _, rest, _⟩ | ⟨t, mem, e', part, same, fails⟩
  · cases rest
  · cases same
    exact ⟨part, List.mem_singleton.1 mem ▸ fails⟩

/-- A success under a time limit is a success of the resolution itself. -/
theorem ends_of_limited {limit : Value} {resolution : Work} {v : Value}
    {updates : List (Journal → Journal)} (ends : (limited limit resolution).Ends (.ok v) updates) :
    ∃ updates', resolution.Ends (.ok v) updates' ∧ updates.Perm updates' := by
  unfold limited at ends
  split at ends
  · exact ⟨updates, ends, .refl _⟩
  · split at ends
    · cases ends
    · split at ends
      · cases ends
      · rcases (ends.stands v rfl).of_atOnce with stands | ⟨failed, -⟩
        · exact ⟨updates, stands.ends _ rfl, .refl _⟩
        · cases failed
      · exact ends_of_awaiting ends

/-- **What a time limit may end a resolution with**: a fault of its own, or that it is up. -/
def Cut (limit : Value) (e : Abort) : Prop :=
  limit ≠ .null ∧ ((∃ f, Limit.seconds limit = .error f ∧ e = .limit f) ∨
    ∃ x, Limit.seconds limit = .ok x ∧ Limit.kind x ≠ .idle ∧ e = .elapsed x)

/-- How a resolution under a time limit may stand, when the resolution itself stands so. -/
inductive Shows (limit : Value) (stood : Standing Abort Value) : Standing Abort Value → Prop where
  | same : Shows limit stood stood
  | underway : Shows limit stood .underway
  | cut {e : Abort} (cut : Cut limit e) : Shows limit stood (.ended (.error e))

theorem stands_of_awaiting {limit : Value} {resolution : Work} {standing : Standing Abort Value}
    {updates : List (Journal → Journal)} (stands : (awaiting resolution).Stands standing updates) :
    ∃ stood, resolution.Stands stood updates ∧ Shows limit stood standing := by
  -- There is one child, so what it has done is all that has been done.
  have only {parts : Nat → List (Journal → Journal)} (others : ∀ i, 1 ≤ i → parts i = []) (i : Nat)
      (h : i ≠ 0) : parts i = [] := others i (Nat.one_le_iff_ne_zero.2 h)
  rcases stands.gatherAll_inv with ⟨stood, parts, each, others, mixes, awaits⟩ |
    ⟨values, parts, mixed, later, length, each, others, mixes, rest, rfl⟩
  · rw [mixes.eq_of_single (only others)]
    refine ⟨stood 0, each 0 resolution rfl, ?_⟩
    cases awaits with
    | underway => exact .underway
    | stuck i bound hangs =>
      cases Nat.lt_one_iff.1 bound
      exact hangs ▸ .same
    | failed i bound fails =>
      cases Nat.lt_one_iff.1 bound
      exact fails ▸ .same
  · obtain ⟨v, rfl⟩ := List.length_eq_one_iff.1 length
    rw [mixes.eq_of_single (only others)]
    refine ⟨.ended (.ok v), ?_, ?_⟩
    · cases rest with
      | begun _ => exact (List.append_nil _).symm ▸ each 0 resolution v rfl rfl
      | done _ => exact (List.append_nil _).symm ▸ each 0 resolution v rfl rfl
    · cases rest with
      | begun _ => exact .underway
      | done _ => exact .same

/-- **How a resolution stands under a time limit**, it stands itself, unless the limit ends it. -/
theorem stands_of_limited {limit : Value} {resolution : Work} {standing : Standing Abort Value}
    {updates : List (Journal → Journal)} (stands : (limited limit resolution).Stands standing updates) :
    ∃ stood, resolution.Stands stood updates ∧ Shows limit stood standing := by
  have failed {e : Abort} (cut : Cut limit e)
      (stands : (Task.fail e : Work).Stands standing updates) :
      ∃ stood, resolution.Stands stood updates ∧ Shows limit stood standing := by
    obtain ⟨rfl, rfl | rfl⟩ := stands.of_fail
    · exact ⟨.underway, .begun _, .underway⟩
    · exact ⟨.underway, .begun _, .cut cut⟩
  unfold limited at stands
  split at stands
  · exact ⟨standing, stands, .same⟩
  · rename_i present
    have some_ : limit ≠ .null := mt limit.isNull_iff.2 present
    split at stands
    · rename_i f seconds
      exact failed ⟨some_, .inl ⟨f, seconds, rfl⟩⟩ stands
    · rename_i x seconds
      have cut (early : Limit.kind x ≠ .idle) : Cut limit (.elapsed x) :=
        ⟨some_, .inr ⟨x, seconds, early, rfl⟩⟩
      split at stands
      · rename_i before
        exact failed (cut (before ▸ nofun)) stands
      · rename_i atOnce
        rcases stands.of_atOnce with same | ⟨rfl, early⟩
        · exact ⟨standing, same, .same⟩
        · exact ⟨.underway, early, .cut (cut (atOnce ▸ nofun))⟩
      · exact stands_of_awaiting stands

/-- The resolution of a request's call tree. -/
abbrev resolution (r : Registry) (n : Node) : Work :=
  Resolution.resolve r n (.of r Registry.rootName .null) []

section

variable {r : Registry} {q : Request} {n : Node} {updates : List (Journal → Journal)}

/-- **A successful request** tells of a success of the resolution of its call tree. -/
theorem ends_of_task (asks : q.source.read = .ok n) {v : Value}
    (ends : (q.task r).Ends (.ok v) updates) :
    ∃ updates', (resolution r n).Ends (.ok v) updates' ∧ updates.Perm updates' := by
  rw [task, asks] at ends
  exact ends_of_limited ends

/-- **A failed request** that is patient tells of a failure of the resolution of its call tree. -/
theorem fails_of_task (asks : q.source.read = .ok n) (patient : q.Patient) {e : Abort}
    (ends : (q.task r).Ends (.error e) updates) :
    ∃ updates', (resolution r n).Ends (.error e) updates' := by
  rw [task, asks] at ends
  simp only at ends
  rcases patient.limited_eq (resolution r n) with same | same
  · exact ⟨updates, same ▸ ends⟩
  · exact fails_of_awaiting (same ▸ ends)

/-- **How a request stands**, the resolution of its call tree stands, unless its limit ends it. -/
theorem stands_of_task (asks : q.source.read = .ok n) {standing : Standing Abort Value}
    (stands : (q.task r).Stands standing updates) :
    ∃ stood, (resolution r n).Stands stood updates ∧ Shows q.limit stood standing := by
  rw [task, asks] at stands
  exact stands_of_limited stands

/-- A request of which the call tree does not read does nothing. -/
theorem stands_of_unread {f : ShapeFault} (unread : q.source.read = .error f)
    {standing : Standing Abort Value} (stands : (q.task r).Stands standing updates) :
    updates = [] ∧ (standing = .underway ∨ standing = .ended (.error (.shape f))) := by
  rw [task, unread] at stands
  exact stands.of_fail

/-- **A patient request hangs only if a resolver does.** -/
theorem lively_task (lively : r.Lively) (patient : q.Patient) : (q.task r).Lively := by
  unfold task
  split
  · exact .done _
  · rename_i n _
    have goesOn : (resolution r n).Lively :=
      (Resolution.inherited_lively lively).resolve n (.of r Registry.rootName .null) [] rfl
    show (limited q.limit (resolution r n)).Lively
    rcases patient.limited_eq (resolution r n) with same | same
    · rw [same]
      exact goesOn
    · rw [same]
      refine .gatherAll ?_ fun _ => .done _
      intro t mem
      rw [List.mem_singleton.1 mem]
      exact goesOn

end

end Request

end CallTree
