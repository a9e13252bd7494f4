/-
# CallTree.Proofs.Task.Standing — how a task stands in the middle of a run.

`Stands` says how far a task may have come: which updates of the state it has made so far, and what
has come of it. Unlike `Ends` it tells of every moment, and of failures too: of a failed task, what it
and its children have done until now. As there, nothing is said on schedules. What a task reads is left
open, and what its children do is interleaved in any way.

A task that is stuck hangs, or waits for a task that is stuck. A task that never hangs is never stuck
(`Lively.not_stuck`), and what a task comes to by `Stands` it comes to by `Ends` (`Stands.ends`).
-/
import CallTree.Task.Process
import CallTree.Proofs.Task.Outcome

namespace CallTree

variable {σ ε α β : Type}

/-- **`Standing ε α`** — what has come of a task so far. -/
inductive Standing (ε α : Type) where
  /-- It is under way, as far as is known. -/
  | underway
  /-- Something in it hangs that it waits for. -/
  | stuck
  | ended (outcome : Except ε α)

/-- How a task stands that waits for others side by side, of which not all have come to a value. -/
inductive Standing.Awaits (count : Nat) (stood : Nat → Standing ε α) : Standing ε β → Prop where
  | underway : Awaits count stood .underway
  | stuck (i : Nat) (bound : i < count) (hangs : stood i = .stuck) : Awaits count stood .stuck
  | failed {e : ε} (i : Nat) (bound : i < count) (fails : stood i = .ended (.error e)) :
      Awaits count stood (.ended (.error e))

namespace Task

/-- **`t.Stands standing updates`** — at some moment of some run, the task has made these updates of
the state, and this has come of it. -/
inductive Stands : Task σ ε α → Standing ε α → List (σ → σ) → Prop where
  | begun (t : Task σ ε α) : Stands t .underway []
  | done (outcome : Except ε α) : Stands (.done outcome) (.ended outcome) []
  | hang : Stands .hang .stuck []
  | act {update : σ → σ} {next : σ → Task σ ε α} {standing : Standing ε α} {updates : List (σ → σ)}
      (seen : σ) (rest : Stands (next seen) standing updates) :
      Stands (.act update next) standing (update :: updates)
  | pause {next : Task σ ε α} {standing : Standing ε α} {updates : List (σ → σ)}
      (rest : Stands next standing updates) : Stands (.pause next) standing updates
  | children {count : Nat} {child : Nat → Task σ ε α} {next : List α → Task σ ε α}
      {stood : Nat → Standing ε α} {parts : Nat → List (σ → σ)} {mixed : List (σ → σ)}
      {standing : Standing ε α} (each : ∀ i, i < count → Stands (child i) (stood i) (parts i))
      (others : ∀ i, count ≤ i → parts i = []) (mixes : Interleaves parts mixed)
      (awaits : Standing.Awaits count stood standing) :
      Stands (.gather count child next) standing mixed
  | gather {count : Nat} {child : Nat → Task σ ε α} {next : List α → Task σ ε α} {values : List α}
      {parts : Nat → List (σ → σ)} {mixed updates : List (σ → σ)} {standing : Standing ε α}
      (length : values.length = count)
      (each : ∀ i v, values[i]? = some v → Stands (child i) (.ended (.ok v)) (parts i))
      (others : ∀ i, count ≤ i → parts i = []) (mixes : Interleaves parts mixed)
      (rest : Stands (next values) standing updates) :
      Stands (.gather count child next) standing (mixed ++ updates)

/-- **A task that has ended so has come to that.** -/
theorem Stands.ends {t : Task σ ε α} {standing : Standing ε α} {updates : List (σ → σ)}
    (h : t.Stands standing updates) :
    ∀ outcome, standing = .ended outcome → t.Ends outcome updates := by
  induction h with
  | begun t => exact nofun
  | done outcome =>
    rintro _ ⟨⟩
    cases outcome with
    | ok a => exact .succeed a
    | error e => exact .fail e []
  | hang => exact nofun
  | act seen _ ih => exact fun outcome same => .act seen (ih outcome same)
  | pause _ ih => exact fun outcome same => .pause (ih outcome same)
  | children _ _ _ awaits ih =>
    rintro outcome rfl
    cases awaits with
    | failed i bound fails => exact .child i bound (ih i bound _ fails) _
  | gather length _ others mixes _ ihEach ih =>
    intro outcome same
    exact .gather length (fun i v value => ihEach i v value _ rfl) others mixes (ih outcome same)

/-- **A task that never hangs is never stuck.** -/
theorem Lively.not_stuck {t : Task σ ε α} (lively : t.Lively) {standing : Standing ε α}
    {updates : List (σ → σ)} (h : t.Stands standing updates) : standing ≠ .stuck := by
  induction h with
  | begun t => exact nofun
  | done outcome => exact nofun
  | hang => exact absurd lively not_lively_hang
  | act seen _ ih =>
    cases lively with
    | act rest => exact ih (rest seen)
  | pause _ ih =>
    cases lively with
    | pause rest => exact ih rest
  | children _ _ _ awaits ih =>
    cases lively with
    | gather ofChildren _ =>
      rintro rfl
      cases awaits with
      | stuck i bound hangs => exact ih i bound (ofChildren i bound) hangs
  | gather _ _ _ _ _ _ ih =>
    cases lively with
    | gather _ rest => exact ih (rest _)

/-- Whatever a task has done is of the kind that its updates are of. -/
theorem Acts.of_stands {P : (σ → σ) → Prop} {t : Task σ ε α} (acts : t.Acts P)
    {standing : Standing ε α} {updates : List (σ → σ)} (h : t.Stands standing updates) :
    ∀ u ∈ updates, P u := by
  -- An update among those of children is in the part of one of them.
  have part {count : Nat} {parts : Nat → List (σ → σ)} {mixed : List (σ → σ)}
      (each : ∀ i, i < count → ∀ u ∈ parts i, P u) (others : ∀ i, count ≤ i → parts i = [])
      (mixes : Interleaves parts mixed) : ∀ u ∈ mixed, P u := by
    intro u mem
    obtain ⟨i, hi⟩ := (mixes.mem_iff u).1 mem
    rcases Nat.lt_or_ge i count with bound | beyond
    · exact each i bound u hi
    · rw [others i beyond] at hi
      cases hi
  induction h with
  | begun t => exact nofun
  | done outcome => exact nofun
  | hang => exact nofun
  | act seen _ ih =>
    cases acts with
    | act own rest => exact List.forall_mem_cons.2 ⟨own, ih (rest seen)⟩
  | pause _ ih =>
    cases acts with
    | pause rest => exact ih rest
  | children _ others mixes _ ih =>
    cases acts with
    | gather ofChildren _ => exact part (fun i bound => ih i bound (ofChildren i bound)) others mixes
  | gather length _ others mixes _ ihEach ih =>
    cases acts with
    | gather ofChildren rest =>
      have early := part (fun i bound => ihEach i _ (List.getElem?_eq_getElem (length ▸ bound))
        (ofChildren i bound)) others mixes
      exact List.forall_mem_append.2 ⟨early, ih (rest _)⟩

/-- A failed task has nothing left to do. -/
theorem Stands.of_fail {e : ε} {standing : Standing ε α} {updates : List (σ → σ)}
    (h : (Task.fail e : Task σ ε α).Stands standing updates) :
    updates = [] ∧ (standing = .underway ∨ standing = .ended (.error e)) := by
  cases h with
  | begun _ => exact ⟨rfl, .inl rfl⟩
  | done _ => exact ⟨rfl, .inr rfl⟩

/-- **A task that can succeed stands so** at the moment when it has. -/
theorem Ends.stands {t : Task σ ε α} {outcome : Except ε α} {updates : List (σ → σ)}
    (h : t.Ends outcome updates) : ∀ a, outcome = .ok a → t.Stands (.ended outcome) updates := by
  induction h with
  | succeed a => exact fun _ _ => .done _
  | fail _ _ => exact nofun
  | act seen _ ih => exact fun a ok => .act seen (ih a ok)
  | pause _ ih => exact fun a ok => .pause (ih a ok)
  | gather length _ others mixes _ ihEach ih =>
    exact fun a ok => .gather length (fun i v value => ihEach i v value v rfl) others mixes (ih a ok)
  | child _ _ _ _ _ => exact nofun

/-! ## Running by itself -/

/-- What a stopped task is still to do. -/
def Stop.task : Stop σ ε α → Task σ ε α
  | .ended outcome => .done outcome
  | .paused rest => rest
  | .hung => .hang
  | .waiting count child next => .gather (count + 1) child next

/-- `Leads updates t t'`: whatever may come of `t'` may come of `t`, with some updates first. -/
def Leads (updates : List (σ → σ)) (t t' : Task σ ε α) : Prop :=
  ∀ standing later, t'.Stands standing later → t.Stands standing (updates ++ later)

/-- Waiting for no child is no step. -/
theorem Leads.gather_zero {updates : List (σ → σ)} {child : Nat → Task σ ε α}
    {next : List α → Task σ ε α} {t : Task σ ε α} (h : Leads updates (next []) t) :
    Leads updates (.gather 0 child next) t := by
  intro standing later stands
  have empty : Interleaves (fun _ => ([] : List (σ → σ))) [] := .nil fun _ => rfl
  have none (i : Nat) (v : α) (hv : ([] : List α)[i]? = some v) :
      (child i).Stands (.ended (.ok v)) [] := by
    simp at hv
  rw [← List.nil_append (updates ++ later)]
  exact .gather List.length_nil none (fun _ _ => rfl) empty (h standing later stands)

/-- **What a task does by itself**: it updates the state, and goes on as what it has stopped at. -/
theorem leads_advance (t : Task σ ε α) (s : σ) :
    ∃ updates, (t.advance s).2 = perform updates s ∧ Leads updates t (t.advance s).1.task := by
  induction t generalizing s with
  | done outcome => exact ⟨[], rfl, fun _ _ => id⟩
  | act update next ih =>
    -- Nothing runs in between here, so what it reads is the state before its own update.
    obtain ⟨updates, state, leads⟩ := ih s (update s)
    exact ⟨update :: updates, state, fun _ _ stands => .act s (leads _ _ stands)⟩
  | pause next _ => exact ⟨[], rfl, fun _ _ => .pause⟩
  | hang => exact ⟨[], rfl, fun _ _ => id⟩
  | gather count child next _ ihNext =>
    cases count with
    | zero =>
      obtain ⟨updates, state, leads⟩ := ihNext [] s
      exact ⟨updates, state, leads.gather_zero⟩
    | succ count => exact ⟨[], rfl, fun _ _ => id⟩

/-! ## Tasks put together -/

/-- **How a sequence of two tasks stands**: the first has succeeded and the second is on its way, or the
first is still waited for. -/
theorem Stands.andThen_inv {t : Task σ ε α} {k : α → Task σ ε α} {standing : Standing ε α}
    {updates : List (σ → σ)} (h : (t.andThen k).Stands standing updates) :
    (∃ a first second, t.Stands (.ended (.ok a)) first ∧ (k a).Stands standing second ∧
        updates = first ++ second) ∨
      ∃ stood, t.Stands stood updates ∧ Standing.Awaits 1 (fun _ => stood) standing := by
  induction t generalizing updates with
  | done result =>
    -- Only here does the second task begin.
    cases result with
    | ok a => exact .inl ⟨a, [], updates, .done _, h, rfl⟩
    | error e =>
      obtain ⟨rfl, rfl | rfl⟩ := h.of_fail
      · exact .inr ⟨_, .begun _, .underway⟩
      · exact .inr ⟨_, .done _, .failed 0 Nat.one_pos rfl⟩
  | act update next ih =>
    cases h with
    | begun _ => exact .inr ⟨_, .begun _, .underway⟩
    | act seen rest =>
      rcases ih seen rest with ⟨a, first, second, stands, goesOn, rfl⟩ | ⟨stood, stands, awaits⟩
      · exact .inl ⟨a, update :: first, second, .act seen stands, goesOn, rfl⟩
      · exact .inr ⟨stood, .act seen stands, awaits⟩
  | pause next ih =>
    cases h with
    | begun _ => exact .inr ⟨_, .begun _, .underway⟩
    | pause rest =>
      rcases ih rest with ⟨a, first, second, stands, goesOn, rfl⟩ | ⟨stood, stands, awaits⟩
      · exact .inl ⟨a, first, second, .pause stands, goesOn, rfl⟩
      · exact .inr ⟨stood, .pause stands, awaits⟩
  | hang =>
    cases h with
    | begun _ => exact .inr ⟨_, .begun _, .underway⟩
    | hang => exact .inr ⟨_, .hang, .stuck 0 Nat.one_pos rfl⟩
  | gather count child next _ ihNext =>
    cases h with
    | begun _ => exact .inr ⟨_, .begun _, .underway⟩
    | children each others mixes awaits =>
      have first : Standing.Awaits 1 (fun _ => standing) standing := by
        cases awaits with
        | underway => exact .underway
        | stuck i bound hangs => exact .stuck 0 Nat.one_pos rfl
        | failed i bound fails => exact .failed 0 Nat.one_pos rfl
      exact .inr ⟨standing, .children each others mixes awaits, first⟩
    | gather length each others mixes rest =>
      rcases ihNext _ rest with ⟨a, first, second, stands, goesOn, rfl⟩ | ⟨stood, stands, awaits⟩
      · refine .inl ⟨a, _ ++ first, second, .gather length each others mixes stands, goesOn, ?_⟩
        rw [List.append_assoc]
      · exact .inr ⟨stood, .gather length each others mixes stands, awaits⟩

/-- **How side-by-side tasks stand**: each is somewhere on its way, or all have succeeded and it goes on
with their results. -/
theorem Stands.gatherAll_inv {tasks : List (Task σ ε α)} {next : List α → Task σ ε α}
    {standing : Standing ε α} {updates : List (σ → σ)}
    (h : (gatherAll tasks next).Stands standing updates) :
    (∃ stood parts, (∀ (i : Nat) (t : Task σ ε α), tasks[i]? = some t → t.Stands (stood i) (parts i)) ∧
        (∀ i, tasks.length ≤ i → parts i = []) ∧ Interleaves parts updates ∧
        Standing.Awaits tasks.length stood standing) ∨
      ∃ values parts mixed later, values.length = tasks.length ∧
        (∀ (i : Nat) (t : Task σ ε α) (v : α), tasks[i]? = some t → values[i]? = some v →
          t.Stands (.ended (.ok v)) (parts i)) ∧
        (∀ i, tasks.length ≤ i → parts i = []) ∧ Interleaves parts mixed ∧
        (next values).Stands standing later ∧ updates = mixed ++ later := by
  have child {i : Nat} {t : Task σ ε α} (here : tasks[i]? = some t) : tasks.getD i .hang = t := by
    rw [List.getD_eq_getElem?_getD, here, Option.getD_some]
  cases h with
  | begun _ =>
    exact .inl ⟨fun _ => .underway, fun _ => [], fun i t _ => .begun t, fun _ _ => rfl,
      .nil fun _ => rfl, .underway⟩
  | @children _ _ _ stood parts _ _ each others mixes awaits =>
    refine .inl ⟨stood, parts, ?_, others, mixes, awaits⟩
    intro i t here
    exact child here ▸ each i (List.getElem?_eq_some_iff.1 here).1
  | @gather _ _ _ values parts mixed later _ length each others mixes rest =>
    refine .inr ⟨values, parts, mixed, later, length, ?_, others, mixes, rest, rfl⟩
    intro i t v here value
    exact child here ▸ each i v value

/-! ## Tasks that are called off -/

/-- **How a task stands that goes on** with what another has come to by itself. -/
theorem Stands.ahead_inv {t : Task σ ε α} {k : Option (Except ε α) → Task σ ε α}
    {standing : Standing ε α} {updates : List (σ → σ)} (h : (t.ahead k).Stands standing updates) :
    standing = .underway ∧ t.Stands .underway updates ∨
      ∃ outcome first later, updates = first ++ later ∧ (k outcome).Stands standing later ∧
        t.Stands .underway first ∧ ∀ o, outcome = some o → t.Stands (.ended o) first := by
  -- Where the task stops without an outcome, it has done nothing more that counts.
  have stops {u : Task σ ε α} {updates : List (σ → σ)} (h : (k none).Stands standing updates) :
      ∃ outcome first later, updates = first ++ later ∧ (k outcome).Stands standing later ∧
        u.Stands .underway first ∧ ∀ o, outcome = some o → u.Stands (.ended o) first :=
    ⟨none, [], updates, rfl, h, .begun u, nofun⟩
  induction t generalizing updates with
  | done outcome =>
    refine .inr ⟨some outcome, [], updates, rfl, h, .begun _, ?_⟩
    rintro _ ⟨⟩
    exact .done outcome
  | act update next ih =>
    cases h with
    | begun _ => exact .inl ⟨rfl, .begun _⟩
    | act seen rest =>
      rcases ih seen rest with ⟨rfl, own⟩ | ⟨outcome, first, later, rfl, goesOn, own, ended⟩
      · exact .inl ⟨rfl, .act seen own⟩
      · exact .inr ⟨outcome, update :: first, later, rfl, goesOn, .act seen own,
          fun o same => .act seen (ended o same)⟩
  | pause next _ => exact .inr (stops h)
  | hang => exact .inr (stops h)
  | gather count child next _ ihNext =>
    cases count with
    | zero =>
      have same : Leads [] (next []) (next []) := fun _ _ => id
      rcases ihNext [] h with ⟨rfl, own⟩ | ⟨outcome, first, later, rfl, goesOn, own, ended⟩
      · exact .inl ⟨rfl, same.gather_zero _ _ own⟩
      · exact .inr ⟨outcome, first, later, rfl, goesOn, same.gather_zero _ _ own,
          fun o here => same.gather_zero _ _ (ended o here)⟩
    | succ count => exact .inr (stops h)

/-- **How children stand that have their first turns**, one after the other. -/
theorem Stands.aheadAll_inv {child : Nat → Task σ ε α} {start count : Nat}
    {k : List (Option (Except ε α)) → Task σ ε α} {standing : Standing ε α} {updates : List (σ → σ)}
    (h : (aheadAll ((List.range' start count).map child) k).Stands standing updates) :
    ∃ (stood : Nat → Standing ε α) (parts : Nat → List (σ → σ)) (mixed later : List (σ → σ)),
      updates = mixed ++ later ∧ (∀ i, start ≤ i → (child i).Stands (stood i) (parts i)) ∧
      (∀ i, i < start ∨ start + count ≤ i → parts i = []) ∧ Interleaves parts mixed ∧
      (standing = .underway ∧ later = [] ∨ ∃ outcomes, (k outcomes).Stands standing later ∧
        ∀ o, some o ∈ outcomes → ∃ i, start ≤ i ∧ i < start + count ∧ stood i = .ended o) := by
  have nothing : Interleaves (fun _ => ([] : List (σ → σ))) [] := .nil fun _ => rfl
  induction count generalizing start k updates with
  | zero =>
    exact ⟨fun _ => .underway, fun _ => [], [], updates, rfl, fun i _ => .begun _, fun _ _ => rfl, nothing,
      .inr ⟨[], h, nofun⟩⟩
  | succ count ih =>
    rw [List.range'_succ, List.map_cons, aheadAll] at h
    rcases h.ahead_inv with ⟨rfl, own⟩ | ⟨outcome, first, rest, rfl, goesOn, own, ended⟩
    · -- Only the first of them has done anything.
      refine ⟨fun _ => .underway, Function.update (fun _ => []) start updates, updates, [],
        (List.append_nil _).symm, fun i _ => ?_, fun i other => ?_, .single start updates, .inl ⟨rfl, rfl⟩⟩
      · rcases eq_or_ne i start with rfl | other
        · rwa [Function.update_self]
        · rw [Function.update_of_ne other]
          exact .begun _
      · rw [Function.update_of_ne (by omega)]
    · obtain ⟨stood, parts, mixed, later, rfl, each, others, mixes, result⟩ := ih goesOn
      refine ⟨Function.update stood start (outcome.elim .underway .ended),
        Function.update parts start (first ++ parts start), first ++ mixed, later,
        (List.append_assoc ..).symm, fun i from_ => ?_, fun i other => ?_, mixes.prepend start first, ?_⟩
      · rcases eq_or_ne i start with rfl | other
        · rw [Function.update_self, Function.update_self, others i (.inl (Nat.lt_succ_self i)), List.append_nil]
          cases outcome with
          | none => exact own
          | some o => exact ended o rfl
        · rw [Function.update_of_ne other, Function.update_of_ne other]
          exact each i (by omega)
      · rw [Function.update_of_ne (by omega)]
        exact others i (by omega)
      · refine result.imp_right ?_
        rintro ⟨outcomes, last, among⟩
        refine ⟨outcome :: outcomes, last, fun o mem => ?_⟩
        rcases List.mem_cons.1 mem with rfl | later
        · exact ⟨start, Nat.le_refl _, by omega, by rw [Function.update_self]; rfl⟩
        · obtain ⟨i, from_, bound, here⟩ := among o later
          exact ⟨i, by omega, by omega, by rw [Function.update_of_ne (by omega), here]⟩

/-- What a task fails with that is called off is a failure of one of its children. -/
theorem mem_of_pressing? {outcomes : List (Option (Except ε α))} {e : ε}
    (h : pressing? outcomes = some e) : some (.error e) ∈ outcomes := by
  replace h := firstFailure?_of_pressing? h
  induction outcomes with
  | nil => cases h
  | cons outcome rest ih =>
    by_cases goesOn : ∀ e, outcome ≠ some (.error e)
    · rw [firstFailure?_cons goesOn] at h
      exact List.mem_cons_of_mem _ (ih h)
    · push Not at goesOn
      obtain ⟨e', rfl⟩ := goesOn
      cases h
      exact List.mem_cons_self

/-- **A task that is called off** stands as the task does, or this is the end of it. -/
theorem Stands.of_atOnce {t : Task σ ε α} {e : ε} {standing : Standing ε α}
    {updates : List (σ → σ)} (h : (t.atOnce e).Stands standing updates) :
    t.Stands standing updates ∨ standing = .ended (.error e) ∧ t.Stands .underway updates := by
  induction t generalizing updates with
  | done outcome => exact .inl h
  | act update next ih =>
    cases h with
    | begun _ => exact .inl (.begun _)
    | act seen rest =>
      rcases ih seen rest with same | ⟨rfl, early⟩
      · exact .inl (.act seen same)
      · exact .inr ⟨rfl, .act seen early⟩
  | pause next _ =>
    -- It has a second turn: it ends in it, or is called off behind it.
    rcases h.ahead_inv with ⟨rfl, own⟩ | ⟨outcome, first, later, rfl, last, own, ended⟩
    · exact .inl (.pause own)
    · cases last with
      | begun _ => exact .inl (.pause ((List.append_nil first).symm ▸ own))
      | done _ =>
        rw [List.append_nil]
        cases outcome with
        | none => exact .inr ⟨rfl, .pause own⟩
        | some o => exact .inl (.pause (ended o rfl))
  | hang =>
    obtain ⟨rfl, rfl | rfl⟩ := h.of_fail
    · exact .inl (.begun _)
    · exact .inr ⟨rfl, .begun _⟩
  | gather count child next _ ihNext =>
    cases count with
    | zero =>
      have same : Leads [] (next []) (next []) := fun _ _ => id
      rcases ihNext [] h with stands | ⟨rfl, early⟩
      · exact .inl (same.gather_zero _ _ stands)
      · exact .inr ⟨rfl, same.gather_zero _ _ early⟩
    | succ count =>
      -- The children have their first turns, and stand side by side as those of the task do. So they do if one
      -- of them has failed and is listened to: then this failure is that of the task.
      rw [atOnce, List.range_eq_range'] at h
      obtain ⟨stood, parts, mixed, later, rfl, each, others, mixes, result⟩ := h.aheadAll_inv
      rw [Nat.zero_add] at others result
      have children {standing : Standing ε α} (awaits : Standing.Awaits (count + 1) stood standing) :
          (Task.gather (count + 1) child next).Stands standing mixed :=
        .children (fun i _ => each i (Nat.zero_le i)) (fun i beyond => others i (.inr beyond)) mixes awaits
      rcases result with ⟨rfl, rfl⟩ | ⟨outcomes, last, among⟩
      · exact .inl ((List.append_nil mixed).symm ▸ children .underway)
      · obtain ⟨rfl, rfl | rfl⟩ := last.of_fail
        · exact .inl ((List.append_nil mixed).symm ▸ children .underway)
        · rw [List.append_nil]
          cases pressing : pressing? outcomes with
          | none => exact .inr ⟨rfl, children .underway⟩
          | some e' =>
            obtain ⟨i, -, bound, failed⟩ := among _ (mem_of_pressing? pressing)
            exact .inl (children (.failed i bound failed))

theorem advance_ahead (t : Task σ ε α) (k : Option (Except ε α) → Task σ ε α) (s : σ) :
    (t.ahead k).advance s = (k (t.advance s).1.outcome?).advance (t.advance s).2 := by
  induction t generalizing s with
  | done outcome => rfl
  | act update next ih => exact ih s (update s)
  | pause next _ => rfl
  | hang => rfl
  | gather count child next _ ihNext =>
    cases count with
    | zero => exact ihNext [] s
    | succ count => rfl

theorem advance_aheadAll (tasks : List (Task σ ε α)) (k : List (Option (Except ε α)) → Task σ ε α) (s : σ) :
    (aheadAll tasks k).advance s = (k (advanceAll tasks s).1).advance (advanceAll tasks s).2 := by
  induction tasks generalizing k s with
  | nil => rfl
  | cons t rest ih => rw [aheadAll, advance_ahead, ih, advanceAll]

/-- **A task that is called off** ends with what it has come to early, or fails. -/
theorem advance_atOnce (t : Task σ ε α) (e : ε) (s : σ) :
    (t.atOnce e).advance s = (.ended ((t.early s).1.getD (.error e)), (t.early s).2) := by
  induction t generalizing s with
  | done outcome => rfl
  | act update next ih => exact ih s (update s)
  | pause next _ => rw [atOnce, advance_ahead]; rfl
  | hang => rfl
  | gather count child next _ ihNext =>
    cases count with
    | zero => exact ihNext [] s
    | succ count =>
      rw [atOnce, advance_aheadAll]
      show _ = (Stop.ended (Option.getD ((pressing? _).map _) _), _)
      cases pressing? (advanceAll ((List.range (count + 1)).map child) s).1 <;> rfl

end Task

end CallTree
