/-
# CallTree.Proofs.Task.Outcome — what a task can come to, whatever runs beside it.

`Ends` says what a task may come to without a word on schedules. What a task reads is left open,
since other tasks may have written in between; what its children do is interleaved in any way. So it
allows more than any machine does, and what holds of all it allows holds of every run
(`CallTree.Proofs.Task.Lane`).

Of a success, all updates of the state are told. Of a failure they are left open: the other children
of a failed parent may be anywhere in their work.

`Lively` says that a task never hangs, whatever it reads, and `Acts` which updates it may make.
-/
import Mathlib.Data.List.Forall2
import CallTree.Task
import CallTree.Proofs.Task.Interleaving

namespace CallTree

variable {σ ε α β : Type}

/-! ## Lists that agree -/

section

variable {γ : Type} {R : α → β → Prop}

/-- The entries at one index of two lists. -/
theorem forall₂_getElem? {xs : List α} {ys : List β} (h : List.Forall₂ R xs ys) (i : Nat) :
    Option.Rel R xs[i]? ys[i]? := by
  induction h generalizing i with
  | nil => exact .none
  | cons first _ ih =>
    cases i with
    | zero => exact .some first
    | succ i => exact ih i

/-- The same change of the entries at one index. -/
theorem forall₂_modify {xs : List α} {ys : List β} (h : List.Forall₂ R xs ys) {f : α → α} {g : β → β}
    (same : ∀ x y, R x y → R (f x) (g y)) (i : Nat) :
    List.Forall₂ R (xs.modify i f) (ys.modify i g) := by
  induction h generalizing i with
  | nil => cases i <;> exact .nil
  | cons first rest ih =>
    cases i with
    | zero => exact .cons (same _ _ first) rest
    | succ i => exact .cons first (ih i)

/-- Two lists that are made of one. -/
theorem forall₂_map {zs : List γ} {f : γ → α} {g : γ → β} (each : ∀ z ∈ zs, R (f z) (g z)) :
    List.Forall₂ R (zs.map f) (zs.map g) := by
  rw [List.forall₂_map_left_iff, List.forall₂_map_right_iff, List.forall₂_same]
  exact each

/-- Two lists that are alike under functions. -/
theorem map_eq_map_iff {xs : List α} {ys : List β} {f : α → γ} {g : β → γ} :
    xs.map f = ys.map g ↔ List.Forall₂ (fun x y => f x = g y) xs ys := by
  rw [← List.forall₂_eq_eq_eq, List.forall₂_map_left_iff, List.forall₂_map_right_iff]

/-- What holds between the entries of one list holds between those of the other. -/
theorem pairwise_of_forall₂ {xs : List α} {ys : List β} (h : List.Forall₂ R xs ys)
    {S : α → α → Prop} {T : β → β → Prop} (pairs : xs.Pairwise S)
    (step : ∀ x x' y y', R x y → R x' y' → S x x' → T y y') : ys.Pairwise T := by
  obtain ⟨length, each⟩ := List.forall₂_iff_get.1 h
  rw [List.pairwise_iff_getElem] at pairs ⊢
  intro i j hi hj less
  have hi' := length ▸ hi
  have hj' := length ▸ hj
  exact step _ _ _ _ (each i hi' hi) (each j hj' hj) (pairs i j hi' hj' less)

/-- Lists that agree by way of a third. -/
theorem forall₂_comp {S : β → γ → Prop} {xs : List α} {zs : List γ} :
    List.Forall₂ (fun x z => ∃ y, R x y ∧ S y z) xs zs ↔
      ∃ ys, List.Forall₂ R xs ys ∧ List.Forall₂ S ys zs := by
  constructor
  · intro h
    induction h with
    | nil => exact ⟨[], .nil, .nil⟩
    | cons first _ ih =>
      obtain ⟨y, front, back⟩ := first
      obtain ⟨ys, fronts, backs⟩ := ih
      exact ⟨y :: ys, .cons front fronts, .cons back backs⟩
  · rintro ⟨ys, fronts, backs⟩
    induction fronts generalizing zs with
    | nil =>
      cases backs
      exact .nil
    | cons front _ ih =>
      cases backs with
      | cons back backs => exact .cons ⟨_, front, back⟩ (ih backs)

end

/-- The state after updates, the first of them done first. -/
def perform (updates : List (σ → σ)) (s : σ) : σ := updates.foldl (fun s update => update s) s

theorem perform_append (updates later : List (σ → σ)) (s : σ) :
    perform (updates ++ later) s = perform later (perform updates s) :=
  List.foldl_append

namespace Task

/-- **`t.Ends outcome updates`** — the task can come to the outcome. If that is a success, these are
its updates of the state. -/
inductive Ends : Task σ ε α → Except ε α → List (σ → σ) → Prop where
  | succeed (a : α) : Ends (.done (.ok a)) (.ok a) []
  | fail (e : ε) (updates : List (σ → σ)) : Ends (.done (.error e)) (.error e) updates
  | act {update : σ → σ} {next : σ → Task σ ε α} {outcome : Except ε α} {updates : List (σ → σ)}
      (seen : σ) (rest : Ends (next seen) outcome updates) :
      Ends (.act update next) outcome (update :: updates)
  | pause {next : Task σ ε α} {outcome : Except ε α} {updates : List (σ → σ)}
      (rest : Ends next outcome updates) : Ends (.pause next) outcome updates
  | gather {count : Nat} {child : Nat → Task σ ε α} {next : List α → Task σ ε α} {values : List α}
      {parts : Nat → List (σ → σ)} {mixed updates : List (σ → σ)} {outcome : Except ε α}
      (length : values.length = count)
      (children : ∀ i v, values[i]? = some v → Ends (child i) (.ok v) (parts i))
      (others : ∀ i, count ≤ i → parts i = []) (mixes : Interleaves parts mixed)
      (rest : Ends (next values) outcome updates) :
      Ends (.gather count child next) outcome (mixed ++ updates)
  | child {count : Nat} {child : Nat → Task σ ε α} {next : List α → Task σ ε α} {e : ε} (i : Nat)
      {part : List (σ → σ)} (bound : i < count) (fails : Ends (child i) (.error e) part)
      (updates : List (σ → σ)) : Ends (.gather count child next) (.error e) updates

/-- **A task that never hangs.** -/
inductive Lively : Task σ ε α → Prop where
  | done (outcome : Except ε α) : Lively (.done outcome)
  | act {update : σ → σ} {next : σ → Task σ ε α} (rest : ∀ seen, Lively (next seen)) :
      Lively (.act update next)
  | pause {next : Task σ ε α} (rest : Lively next) : Lively (.pause next)
  | gather {count : Nat} {child : Nat → Task σ ε α} {next : List α → Task σ ε α}
      (children : ∀ i, i < count → Lively (child i)) (rest : ∀ values, Lively (next values)) :
      Lively (.gather count child next)

theorem not_lively_hang : ¬ (.hang : Task σ ε α).Lively := nofun

/-- **A task of which every update is of a kind.** -/
inductive Acts (P : (σ → σ) → Prop) : Task σ ε α → Prop where
  | done (outcome : Except ε α) : Acts P (.done outcome)
  | act {update : σ → σ} {next : σ → Task σ ε α} (own : P update)
      (rest : ∀ seen, Acts P (next seen)) : Acts P (.act update next)
  | pause {next : Task σ ε α} (rest : Acts P next) : Acts P (.pause next)
  | hang : Acts P .hang
  | gather {count : Nat} {child : Nat → Task σ ε α} {next : List α → Task σ ε α}
      (children : ∀ i, i < count → Acts P (child i)) (rest : ∀ values, Acts P (next values)) :
      Acts P (.gather count child next)

/-- The updates that lead to a success are of the kind. -/
theorem Acts.of_ends {P : (σ → σ) → Prop} {t : Task σ ε α} (acts : t.Acts P)
    {outcome : Except ε α} {updates : List (σ → σ)} (h : t.Ends outcome updates) :
    ∀ a, outcome = .ok a → ∀ u ∈ updates, P u := by
  induction h with
  | succeed a => exact nofun
  | fail e updates => exact nofun
  | act seen _ ih =>
    intro a ok u mem
    cases acts with
    | act own rest =>
      rcases List.mem_cons.1 mem with rfl | later
      · exact own
      · exact ih (rest seen) a ok u later
  | pause _ ih =>
    cases acts with
    | pause rest => exact ih rest
  | @gather count child next values parts mixed updates outcome length _ others mixes _ ihChild ih =>
    intro a ok u mem
    cases acts with
    | gather ofChildren rest =>
      rcases List.mem_append.1 mem with early | later
      · -- An update among those of the children is in the part of one of them.
        obtain ⟨i, hi⟩ := (mixes.mem_iff u).1 early
        have bound : i < count := by
          by_contra h
          rw [others i (Nat.le_of_not_lt h)] at hi
          cases hi
        have value : values[i]? = some (values.get ⟨i, length ▸ bound⟩) := List.getElem?_eq_getElem _
        exact ihChild i _ value (ofChildren i bound) _ rfl u hi
      · exact ih (rest values) a ok u later
  | child _ _ _ _ _ => exact nofun

/-! ## Tasks put together -/

/-- **What a sequence of two tasks comes to**: both succeed one after the other, or one fails. -/
theorem Ends.andThen_inv {t : Task σ ε α} {k : α → Task σ ε α} {outcome : Except ε α}
    {updates : List (σ → σ)} (h : (t.andThen k).Ends outcome updates) :
    (∃ a first second, t.Ends (.ok a) first ∧ (k a).Ends outcome second ∧
        updates = first ++ second) ∨
      ∃ e part, outcome = .error e ∧ t.Ends (.error e) part := by
  induction t generalizing updates with
  | done result =>
    -- Only here does the second task begin.
    cases result with
    | ok a => exact .inl ⟨a, [], updates, .succeed a, h, rfl⟩
    | error e =>
      cases h
      exact .inr ⟨e, [], rfl, .fail e []⟩
  | act update next ih =>
    cases h with
    | act seen rest =>
      rcases ih seen rest with ⟨a, first, second, ends, goesOn, rfl⟩ | ⟨e, part, rfl, fails⟩
      · exact .inl ⟨a, update :: first, second, .act seen ends, goesOn, rfl⟩
      · exact .inr ⟨e, update :: part, rfl, .act seen fails⟩
  | pause next ih =>
    cases h with
    | pause rest =>
      rcases ih rest with ⟨a, first, second, ends, goesOn, rfl⟩ | ⟨e, part, rfl, fails⟩
      · exact .inl ⟨a, first, second, .pause ends, goesOn, rfl⟩
      · exact .inr ⟨e, part, rfl, .pause fails⟩
  | hang => cases h
  | gather count child next _ ihNext =>
    cases h with
    | gather length children others mixes rest =>
      rcases ihNext _ rest with ⟨a, first, second, ends, goesOn, rfl⟩ | ⟨e, part, rfl, fails⟩
      · refine .inl ⟨a, _ ++ first, second, .gather length children others mixes ends, goesOn, ?_⟩
        rw [List.append_assoc]
      · exact .inr ⟨e, _, rfl, .gather length children others mixes fails⟩
    | child i bound fails =>
      exact .inr ⟨_, [], rfl, .child i bound fails []⟩

theorem Lively.andThen {t : Task σ ε α} {k : α → Task σ ε α} (h : t.Lively)
    (goesOn : ∀ a, (k a).Lively) : (t.andThen k).Lively := by
  induction h with
  | done outcome =>
    cases outcome with
    | ok a => exact goesOn a
    | error e => exact .done _
  | act _ ih => exact .act ih
  | pause _ ih => exact .pause ih
  | gather children _ _ ih => exact .gather children ih

theorem Acts.andThen {P : (σ → σ) → Prop} {t : Task σ ε α} {k : α → Task σ ε α} (h : t.Acts P)
    (goesOn : ∀ a, (k a).Acts P) : (t.andThen k).Acts P := by
  induction h with
  | done outcome =>
    cases outcome with
    | ok a => exact goesOn a
    | error e => exact .done _
  | act own _ ih => exact .act own ih
  | pause _ ih => exact .pause ih
  | hang => exact .hang
  | gather children _ _ ih => exact .gather children ih

/-- Waiting for no child is no step. -/
theorem Ends.gather_zero {child : Nat → Task σ ε α} {next : List α → Task σ ε α}
    {outcome : Except ε α} {updates : List (σ → σ)} (h : (next []).Ends outcome updates) :
    (Task.gather 0 child next).Ends outcome updates := by
  have empty : Interleaves (fun _ => ([] : List (σ → σ))) [] := .nil fun _ => rfl
  have none (i : Nat) (v : α) (hv : ([] : List α)[i]? = some v) : (child i).Ends (.ok v) [] := by
    simp at hv
  rw [← List.nil_append updates]
  exact .gather List.length_nil none (fun _ _ => rfl) empty h

/-! ## Lists of children -/

/-- The children of a list that have run: each with its result and its updates. -/
abbrev Ran (tasks : List (Task σ ε α)) (runs : List (α × List (σ → σ))) : Prop :=
  List.Forall₂ (fun t run => t.Ends (.ok run.1) run.2) tasks runs

theorem Ran.getElem? {tasks : List (Task σ ε α)} {runs : List (α × List (σ → σ))}
    (ran : Ran tasks runs) {i : Nat} {t : Task σ ε α} {run : α × List (σ → σ)}
    (task : tasks[i]? = some t) (here : runs[i]? = some run) : t.Ends (.ok run.1) run.2 := by
  induction ran generalizing i with
  | nil => cases task
  | cons ends _ ih =>
    cases i with
    | zero =>
      cases task
      cases here
      exact ends
    | succ i => exact ih task here

/-- **What side-by-side tasks come to**: all succeed, and it goes on with their results; or one
fails. -/
theorem Ends.gatherAll_inv {tasks : List (Task σ ε α)} {next : List α → Task σ ε α}
    {outcome : Except ε α} {updates : List (σ → σ)}
    (h : (gatherAll tasks next).Ends outcome updates) :
    (∃ runs mixed later, Ran tasks runs ∧ mixed.Perm (runs.flatMap (·.2)) ∧
        (next (runs.map (·.1))).Ends outcome later ∧ updates = mixed ++ later) ∨
      ∃ t ∈ tasks, ∃ e part, outcome = .error e ∧ t.Ends (.error e) part := by
  cases h with
  | @gather _ _ _ values parts mixed later _ length children others mixes rest =>
    -- The runs are the values, each with the part of its child.
    refine .inl ⟨values.zipIdx.map fun v => (v.1, parts v.2), mixed, later, ?_, ?_, ?_, rfl⟩
    · refine List.forall₂_iff_get.2 ⟨by simp [length], ?_⟩
      intro i hi hv
      have hi' : i < values.length := by simpa using hv
      have ends := children i values[i] (List.getElem?_eq_getElem hi')
      simpa [List.getD_eq_getElem?_getD, hi] using ends
    · have all : (values.zipIdx.map fun v => (v.1, parts v.2)).flatMap (·.2) =
          (List.range tasks.length).flatMap parts := by
        rw [List.flatMap_map, ← length, List.range_eq_range', ← List.zipIdx_map_snd, List.flatMap_map]
      rw [all]
      exact mixes.perm others
    · rw [List.map_map]
      have values_eq : values.zipIdx.map ((fun run => run.1) ∘ fun v => (v.1, parts v.2)) = values :=
        List.zipIdx_map_fst 0 values
      rw [values_eq]
      exact rest
  | @child _ _ _ e i part bound fails =>
    refine .inr ⟨tasks[i], List.getElem_mem bound, e, part, rfl, ?_⟩
    simpa [List.getD_eq_getElem?_getD, bound] using fails

theorem Acts.gatherAll {P : (σ → σ) → Prop} {tasks : List (Task σ ε α)}
    {next : List α → Task σ ε α} (children : ∀ t ∈ tasks, t.Acts P)
    (rest : ∀ values, (next values).Acts P) : (gatherAll tasks next).Acts P := by
  refine .gather ?_ rest
  intro i bound
  rw [List.getD_eq_getElem?_getD, List.getElem?_eq_getElem bound]
  exact children _ (List.getElem_mem bound)

theorem Lively.gatherAll {tasks : List (Task σ ε α)} {next : List α → Task σ ε α}
    (children : ∀ t ∈ tasks, t.Lively) (rest : ∀ values, (next values).Lively) :
    (gatherAll tasks next).Lively := by
  refine .gather ?_ rest
  intro i bound
  rw [List.getD_eq_getElem?_getD, List.getElem?_eq_getElem bound]
  exact children _ (List.getElem_mem bound)

end Task

end CallTree
