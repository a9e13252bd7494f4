/-
# CallTree.Proofs.Task.Interleaving — several lists mixed into one.

`Interleaves parts mixed` says that `mixed` takes its entries from the fronts of the parts, one at a
time and in any order, until all parts are empty. Parts are numbered, and there are as many as there
are numbers; all but finitely many of those in use are empty. Three facts are all that concurrent work
needs: entries may be put in front of a part and of the mixture together (`prepend`), nothing is lost
or made up (`perm`), and the order in each part is kept (`split`).
-/
import Mathlib.Data.List.Perm.Basic
import Mathlib.Logic.Function.Basic

namespace CallTree

variable {β : Type}

/-- **`Interleaves parts mixed`** — the entries of all parts, each part in its order. -/
inductive Interleaves : (Nat → List β) → List β → Prop where
  | nil {parts : Nat → List β} (empty : ∀ i, parts i = []) : Interleaves parts []
  | cons {parts : Nat → List β} {mixed rest : List β} {x : β} (i : Nat)
      (front : parts i = x :: rest) (others : Interleaves (Function.update parts i rest) mixed) :
      Interleaves parts (x :: mixed)

namespace Interleaves

/-- Entries put in front of a part and of the mixture. -/
theorem prepend {parts : Nat → List β} {mixed : List β} (h : Interleaves parts mixed) (i : Nat)
    (front : List β) : Interleaves (Function.update parts i (front ++ parts i)) (front ++ mixed) := by
  induction front with
  | nil =>
    rw [List.nil_append, Function.update_eq_self]
    exact h
  | cons x front ih =>
    have next : Function.update parts i (x :: front ++ parts i) i = x :: (front ++ parts i) := by
      rw [Function.update_self, List.cons_append]
    refine .cons i next ?_
    rw [Function.update_idem]
    exact ih

/-- Nothing comes of empty parts. -/
theorem eq_nil {parts : Nat → List β} {mixed : List β} (h : Interleaves parts mixed)
    (empty : ∀ i, parts i = []) : mixed = [] := by
  cases h with
  | nil _ => rfl
  | cons i front _ =>
    rw [empty i] at front
    cases front

/-- One part alone. -/
theorem single (i : Nat) (part : List β) :
    Interleaves (Function.update (fun _ => []) i part) part := by
  have nothing : Interleaves (fun _ => ([] : List β)) [] := .nil fun _ => rfl
  have alone := nothing.prepend i part
  rw [List.append_nil] at alone
  exact alone

/-- A mixture of a single part is that part. -/
theorem eq_of_single {parts : Nat → List β} {mixed : List β} (h : Interleaves parts mixed) {i : Nat}
    (empty : ∀ j, j ≠ i → parts j = []) : mixed = parts i := by
  induction h with
  | nil none => exact (none i).symm
  | @cons parts mixed rest x j front _ ih =>
    have here : j = i := by
      by_contra other
      rw [empty j other] at front
      cases front
    subst here
    rw [front, ih fun k hk => by rw [Function.update_of_ne hk, empty k hk], Function.update_self]

/-- Parts that are numbered from a later number on. -/
theorem shift {parts : Nat → List β} {mixed : List β} (h : Interleaves parts mixed) (n : Nat)
    (empty : ∀ i, i < n → parts i = []) : Interleaves (fun i => parts (n + i)) mixed := by
  induction h with
  | nil none => exact .nil fun i => none (n + i)
  | @cons parts mixed rest x i front _ ih =>
    have later : n ≤ i := by
      by_contra early
      rw [empty i (by omega)] at front
      cases front
    obtain ⟨j, rfl⟩ := Nat.exists_eq_add_of_le later
    have same : Function.update (fun i => parts (n + i)) j rest =
        fun i => Function.update parts (n + j) rest (n + i) := by
      funext k
      by_cases hk : k = j
      · rw [hk, Function.update_self, Function.update_self]
      · rw [Function.update_of_ne hk, Function.update_of_ne (by omega)]
    refine .cons j front ?_
    rw [same]
    refine ih ?_
    intro k hk
    rw [Function.update_of_ne (by omega), empty k hk]

/-- What is made of the entries one by one. -/
theorem flatMap {γ : Type} {parts : Nat → List β} {mixed : List β} (h : Interleaves parts mixed)
    (f : β → List γ) : Interleaves (fun i => (parts i).flatMap f) (mixed.flatMap f) := by
  induction h with
  | nil empty => exact .nil fun i => by rw [empty i, List.flatMap_nil]
  | @cons parts mixed rest x i front _ ih =>
    have goesOn := ih.prepend i (f x)
    have same : Function.update (fun j => (Function.update parts i rest j).flatMap f) i
        (f x ++ (Function.update parts i rest i).flatMap f) = fun j => (parts j).flatMap f := by
      funext j
      by_cases hj : j = i
      · subst hj
        rw [Function.update_self, Function.update_self, front, List.flatMap_cons]
      · rw [Function.update_of_ne hj, Function.update_of_ne hj]
    rw [same] at goesOn
    rw [List.flatMap_cons]
    exact goesOn

/-- The entries that are of some kind. -/
theorem filterMap {γ : Type} {parts : Nat → List β} {mixed : List β} (h : Interleaves parts mixed)
    (f : β → Option γ) : Interleaves (fun i => (parts i).filterMap f) (mixed.filterMap f) := by
  have all := h.flatMap fun x => (f x).toList
  simp only [← List.filterMap_eq_flatMap_toList] at all
  exact all

/-- What comes before an entry in its part comes before it in the mixture. -/
theorem split {parts : Nat → List β} {mixed before rest : List β} {x : β}
    (h : Interleaves parts mixed) (here : mixed = before ++ x :: rest) :
    ∃ i earlier later, parts i = earlier ++ x :: later ∧ earlier ⊆ before := by
  induction h generalizing before with
  | nil _ =>
    cases before with
    | nil => cases here
    | cons _ _ => cases here
  | @cons parts mixed others y i front _ ih =>
    cases before with
    | nil =>
      cases here
      exact ⟨i, [], others, front, List.nil_subset _⟩
    | cons z before =>
      rw [List.cons_append, List.cons.injEq] at here
      obtain ⟨rfl, here⟩ := here
      obtain ⟨j, earlier, later, part, sub⟩ := ih here
      by_cases hj : j = i
      · subst hj
        rw [Function.update_self] at part
        exact ⟨j, y :: earlier, later, by rw [front, part]; rfl, List.cons_subset_cons y sub⟩
      · rw [Function.update_of_ne hj] at part
        exact ⟨j, earlier, later, part, List.Subset.trans sub (List.subset_cons_self y before)⟩

/-- The entries of a mixture are those of its parts. -/
theorem mem_iff {parts : Nat → List β} {mixed : List β} (h : Interleaves parts mixed) (y : β) :
    y ∈ mixed ↔ ∃ i, y ∈ parts i := by
  induction h with
  | nil empty => simp [empty]
  | @cons parts mixed rest x i front _ ih =>
    rw [List.mem_cons, ih]
    constructor
    · rintro (rfl | ⟨j, hj⟩)
      · exact ⟨i, by rw [front]; exact List.mem_cons_self⟩
      · by_cases hji : j = i
        · subst hji
          rw [Function.update_self] at hj
          exact ⟨j, by rw [front]; exact List.mem_cons_of_mem _ hj⟩
        · rw [Function.update_of_ne hji] at hj
          exact ⟨j, hj⟩
    · rintro ⟨j, hj⟩
      by_cases hji : j = i
      · subst hji
        rw [front, List.mem_cons] at hj
        rcases hj with rfl | hj
        · exact .inl rfl
        · exact .inr ⟨j, by rw [Function.update_self]; exact hj⟩
      · exact .inr ⟨j, by rw [Function.update_of_ne hji]; exact hj⟩

/-- One entry more in one of the parts is one more in all of them together. -/
theorem flatMap_perm_cons {parts : Nat → List β} {rest : List β} {x : β} {i : Nat}
    (front : parts i = x :: rest) (numbers : List Nat) (once : numbers.Nodup) (mem : i ∈ numbers) :
    (numbers.flatMap parts).Perm (x :: numbers.flatMap (Function.update parts i rest)) := by
  obtain ⟨before, after, rfl⟩ := List.append_of_mem mem
  have notBefore : i ∉ before := fun h =>
    (List.nodup_append.1 once).2.2 i h i List.mem_cons_self rfl
  have notAfter : i ∉ after := (List.nodup_cons.1 (List.nodup_append.1 once).2.1).1
  have same (numbers : List Nat) (h : i ∉ numbers) :
      numbers.flatMap (Function.update parts i rest) = numbers.flatMap parts :=
    List.flatMap_congr fun j hj => Function.update_of_ne (fun hji => h (by rw [← hji]; exact hj)) _ _
  rw [List.flatMap_append, List.flatMap_append, List.flatMap_cons, List.flatMap_cons, front,
    Function.update_self, same before notBefore, same after notAfter]
  exact List.perm_middle

/-- **Nothing is lost or made up.** -/
theorem perm {parts : Nat → List β} {mixed : List β} (h : Interleaves parts mixed) {n : Nat}
    (bounded : ∀ i, n ≤ i → parts i = []) : mixed.Perm ((List.range n).flatMap parts) := by
  induction h with
  | @nil parts empty =>
    have nothing : (List.range n).flatMap parts = [] :=
      List.flatMap_eq_nil_iff.2 fun i _ => empty i
    rw [nothing]
  | @cons parts mixed rest x i front _ ih =>
    have hi : i < n := by
      by_contra hge
      rw [bounded i (Nat.le_of_not_lt hge)] at front
      cases front
    have others : mixed.Perm ((List.range n).flatMap (Function.update parts i rest)) := by
      apply ih
      intro j hj
      rw [Function.update_of_ne (by omega), bounded j hj]
    have more := flatMap_perm_cons front (List.range n) List.nodup_range (List.mem_range.2 hi)
    exact (others.cons x).trans more.symm

end Interleaves

end CallTree
