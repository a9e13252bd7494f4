/-
# CallTree.Proofs.Resolution.Accounts — every call in a history starts, and it may end.

At every moment of a resolution the calls that have started are those that have ended and those that
are open (`Accounts`), none lost and none made up. When the resolution has succeeded, no call is open.
When it is stuck, one of the open calls is of a resolver that may hang (`inherited_accounted`).
-/
import CallTree.Proofs.Resolution.Inherited
import CallTree.Proofs.Task.Standing

namespace CallTree

open Journal
open scoped List

/-- A call of which the resolver may hang. -/
def Registry.MayHang (r : Registry) (c : Call) : Prop :=
  ∃ f, r.field? c.owner c.field = some f ∧ ¬ (f.resolve c.args c.data).Lively

/-! ## Calls as tasks -/

/-- **How the script of a call stands**: it goes on with an outcome, which is logged, or nothing is
logged yet; then it is under way, or it hangs. -/
theorem Script.stands_inv {s : Script} {call : Call} {next : Except Failure Value → Work}
    {standing : Standing Abort Value} {updates : List (Journal → Journal)}
    (stands : (s.run call next).Stands standing updates) :
    (∃ outcome later, (next outcome).Stands standing later ∧
        written updates = .ended call outcome :: written later) ∨
      written updates = [] ∧ (standing = .underway ∨ standing = .stuck ∧ ¬ s.Lively) := by
  induction s generalizing updates with
  | done outcome =>
    cases stands with
    | begun _ => exact .inr ⟨rfl, .inl rfl⟩
    | act seen rest => exact .inl ⟨outcome, _, rest, rfl⟩
  | pause rest ih =>
    cases stands with
    | begun _ => exact .inr ⟨rfl, .inl rfl⟩
    | pause own =>
      rcases ih own with goesOn | ⟨none, waits | ⟨stuck, hangs⟩⟩
      · exact .inl goesOn
      · exact .inr ⟨none, .inl waits⟩
      · refine .inr ⟨none, .inr ⟨stuck, fun lively => hangs ?_⟩⟩
        cases lively with
        | pause rest => exact rest
  | hang =>
    cases stands with
    | begun _ => exact .inr ⟨rfl, .inl rfl⟩
    | hang => exact .inr ⟨rfl, .inr ⟨rfl, nofun⟩⟩
  | consult state rest ih =>
    cases stands with
    | begun _ => exact .inr ⟨rfl, .inl rfl⟩
    | act seen own =>
      rw [written_setState]
      rcases ih seen.context own with goesOn | ⟨none, waits | ⟨stuck, hangs⟩⟩
      · exact .inl goesOn
      · exact .inr ⟨none, .inl waits⟩
      · refine .inr ⟨none, .inr ⟨stuck, fun lively => hangs ?_⟩⟩
        cases lively with
        | consult rest => exact rest _

/-- **How a call stands**: it has not started, it is open, or it has ended and it goes on. -/
theorem Script.call_stands_inv {s : Script} {call : Call} {next : Except Failure Value → Work}
    {standing : Standing Abort Value} {updates : List (Journal → Journal)}
    (stands : (Task.act (·.start call) fun _ => s.run call next : Work).Stands standing updates) :
    written updates = [] ∧ standing = .underway ∨
      written updates = [.started call] ∧ (standing = .underway ∨ standing = .stuck ∧ ¬ s.Lively) ∨
        ∃ outcome later, (next outcome).Stands standing later ∧
          written updates = .started call :: .ended call outcome :: written later := by
  cases stands with
  | begun _ => exact .inl ⟨rfl, rfl⟩
  | act seen rest =>
    rw [written_start]
    rcases Script.stands_inv rest with ⟨outcome, later, goesOn, wrote⟩ | ⟨none, waits⟩
    · exact .inr (.inr ⟨outcome, later, goesOn, by rw [wrote]⟩)
    · exact .inr (.inl ⟨by rw [none], waits⟩)

namespace Resolution

/-! ## The books -/

/-- **The books of a history**: the calls that have started are those that have ended and the open ones.
A success leaves none open, and what is stuck waits for one that may hang. -/
structure Accounts (r : Registry) (standing : Standing Abort Value) (history : List Event)
    (left : List Call) : Prop where
  perm : (startedIn history).Perm (endedIn history ++ left)
  succeeded : ∀ v, standing = .ended (.ok v) → left = []
  hangs : standing = .stuck → ∃ c ∈ left, r.MayHang c

/-- A task of which the books balance at every moment. -/
def Accounted (r : Registry) (t : Work) : Prop :=
  ∀ standing updates, t.Stands standing updates →
    ∃ left, Accounts r standing (written updates) left

variable {r : Registry}

theorem accounted_done (outcome : Except Abort Value) : Accounted r (.done outcome) := by
  intro standing updates stands
  have none (unstuck : standing ≠ .stuck) : Accounts r standing [] [] :=
    ⟨.refl _, fun _ _ => rfl, fun stuck => absurd stuck unstuck⟩
  cases stands with
  | begun _ => exact ⟨[], none nofun⟩
  | done _ => exact ⟨[], none nofun⟩

/-- The books go on after a success. -/
theorem Accounts.append {v : Value} {standing : Standing Abort Value} {first second : List Event}
    {left none : List Call} (before : Accounts r (.ended (.ok v)) first none)
    (after : Accounts r standing second left) : Accounts r standing (first ++ second) left := by
  refine ⟨?_, after.succeeded, after.hangs⟩
  have closed := before.perm
  rw [before.succeeded v rfl, List.append_nil] at closed
  rw [startedIn_append, endedIn_append, List.append_assoc]
  exact closed.append after.perm

/-- The books of tasks side by side, mixed. -/
theorem mixed_perm {n : Nat} {parts : Nat → List (Journal → Journal)}
    {mixed : List (Journal → Journal)} {left : Nat → List Call} (others : ∀ i, n ≤ i → parts i = [])
    (mixes : Interleaves parts mixed)
    (perm : ∀ i, i < n →
      (startedIn (written (parts i))).Perm (endedIn (written (parts i)) ++ left i)) :
    (startedIn (written mixed)).Perm (endedIn (written mixed) ++ (List.range n).flatMap left) := by
  have events : Interleaves (fun i => written (parts i)) (written mixed) := mixes.flatMap _
  have apart (kind : Event → Option Call) : ((written mixed).filterMap kind).Perm
      ((List.range n).flatMap fun i => (written (parts i)).filterMap kind) :=
    (events.filterMap kind).perm fun i hi => by rw [others i hi]; rfl
  calc startedIn (written mixed)
    _ ~ (List.range n).flatMap fun i => startedIn (written (parts i)) := apart Event.started?
    _ ~ (List.range n).flatMap fun i => endedIn (written (parts i)) ++ left i :=
      .flatMap_left _ fun i hi => perm i (List.mem_range.1 hi)
    _ ~ ((List.range n).flatMap fun i => endedIn (written (parts i))) ++ (List.range n).flatMap left :=
      (List.flatMap_append_perm _ _ _).symm
    _ ~ endedIn (written mixed) ++ (List.range n).flatMap left :=
      (apart Event.ended?).symm.append_right _

theorem accounted_gatherAll {tasks : List Work} {next : List Value → Work}
    (children : ∀ t ∈ tasks, Accounted r t) (goesOn : ∀ values, Accounted r (next values)) :
    Accounted r (.gatherAll tasks next) := by
  intro standing updates stands
  rcases stands.gatherAll_inv with ⟨stood, parts, each, others, mixes, awaits⟩ |
    ⟨values, parts, mixed, later, length, each, others, mixes, rest, rfl⟩
  · -- While the children are awaited, open is what is open in any of them.
    have books (i : Nat) : ∃ left, i < tasks.length →
        Accounts r (stood i) (written (parts i)) left := by
      by_cases bound : i < tasks.length
      · obtain ⟨left, accounts⟩ :=
          children _ (List.getElem_mem bound) _ _ (each i _ (List.getElem?_eq_getElem bound))
        exact ⟨left, fun _ => accounts⟩
      · exact ⟨[], fun h => absurd h bound⟩
    choose left accounts using books
    refine ⟨(List.range tasks.length).flatMap left, ?_, ?_, ?_⟩
    · exact mixed_perm others mixes fun i bound => (accounts i bound).perm
    · rintro v rfl
      cases awaits
    · rintro rfl
      cases awaits with
      | stuck i bound hangs =>
        obtain ⟨c, mem, may⟩ := (accounts i bound).hangs hangs
        exact ⟨c, List.mem_flatMap.2 ⟨i, List.mem_range.2 bound, mem⟩, may⟩
  · -- All children have succeeded, so none of them has left a call open.
    obtain ⟨left, after⟩ := goesOn values _ _ rest
    have closed (i : Nat) (bound : i < tasks.length) :
        (startedIn (written (parts i))).Perm (endedIn (written (parts i)) ++ []) := by
      obtain ⟨none, accounts⟩ := children _ (List.getElem_mem bound) _ _
        (each i _ values[i] (List.getElem?_eq_getElem bound) (List.getElem?_eq_getElem _))
      rw [← accounts.succeeded _ rfl]
      exact accounts.perm
    have before : Accounts r (.ended (.ok Value.null)) (written mixed)
        ((List.range tasks.length).flatMap fun _ => []) :=
      ⟨mixed_perm others mixes closed, fun _ _ => by simp, nofun⟩
    rw [written_append]
    exact ⟨left, before.append after⟩

theorem accounted_andThen {t : Work} {k : Value → Work} (first : Accounted r t)
    (second : ∀ v, Accounted r (k v)) : Accounted r (t.andThen k) := by
  intro standing updates stands
  rcases stands.andThen_inv with ⟨v, own, later, ends, rest, rfl⟩ | ⟨stood, own, awaits⟩
  · obtain ⟨none, before⟩ := first _ _ ends
    obtain ⟨left, after⟩ := second v _ _ rest
    rw [written_append]
    exact ⟨left, before.append after⟩
  · obtain ⟨left, accounts⟩ := first _ _ own
    refine ⟨left, accounts.perm, ?_, ?_⟩
    · rintro v rfl
      cases awaits
    · rintro rfl
      cases awaits with
      | stuck _ _ hangs => exact accounts.hangs hangs

theorem accounted_call {call : Call} {f : Field} (found : r.field? call.owner call.field = some f)
    {next : Except Failure Value → Work} (goesOn : ∀ outcome, Accounted r (next outcome)) :
    Accounted r (.act (·.start call) fun _ => (f.resolve call.args call.data).run call next) := by
  intro standing updates stands
  rcases Script.call_stands_inv stands with ⟨none, rfl⟩ | ⟨opened, waits⟩ | ⟨outcome, later, rest, wrote⟩
  · rw [none]
    exact ⟨[], .refl _, nofun, nofun⟩
  · rw [opened]
    refine ⟨[call], .refl _, ?_, ?_⟩
    · rintro v rfl
      rcases waits with waits | ⟨stuck, _⟩
      · cases waits
      · cases stuck
    · rintro rfl
      rcases waits with waits | ⟨_, hangs⟩
      · cases waits
      · exact ⟨call, List.mem_singleton.2 rfl, f, found, hangs⟩
  · obtain ⟨left, accounts⟩ := goesOn outcome _ _ rest
    rw [wrote]
    exact ⟨left, accounts.perm.cons call, accounts.succeeded, accounts.hangs⟩

/-- **The books of every resolution balance** at every moment. -/
theorem inherited_accounted (r : Registry) : Inherited r (Accounted r) where
  done := accounted_done
  gatherAll := accounted_gatherAll
  andThen := accounted_andThen
  call _ _ found _ goesOn := accounted_call found goesOn

end Resolution

end CallTree
