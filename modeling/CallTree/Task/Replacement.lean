/-
# CallTree.Task.Replacement — lists that shrink by replacement.

A list shrinks when one of its entries is replaced, at its place, by any number of smaller ones. If
the order of entries is well founded, no list can shrink forever (`wellFounded`), although every
step may make it longer. This is the measure by which concurrent work ends.
-/

namespace CallTree

variable {α : Type}

/-- `Replaces r l' l`: the list `l'` is `l` with one entry replaced by smaller ones. -/
def Replaces (r : α → α → Prop) (l' l : List α) : Prop :=
  ∃ before x after new, l = before ++ x :: after ∧ l' = before ++ new ++ after ∧ ∀ y ∈ new, r y x

namespace Replaces

variable {r : α → α → Prop}

/-- Entries in front stay where they are. -/
theorem append_left (front : List α) {l' l : List α} (h : Replaces r l' l) :
    Replaces r (front ++ l') (front ++ l) := by
  obtain ⟨before, y, after, new, rfl, rfl, small⟩ := h
  exact ⟨front ++ before, y, after, new, by simp, by simp, small⟩

/-- Entries behind stay where they are. -/
theorem append_right (behind : List α) {l' l : List α} (h : Replaces r l' l) :
    Replaces r (l' ++ behind) (l ++ behind) := by
  obtain ⟨before, y, after, new, rfl, rfl, small⟩ := h
  exact ⟨before, y, after ++ behind, new, by simp, by simp, small⟩

/-- What replaces the first entry, or happens after it. -/
theorem cons_inv {x : α} {l' rest : List α} (h : Replaces r l' (x :: rest)) :
    (∃ new, l' = new ++ rest ∧ ∀ y ∈ new, r y x) ∨
      ∃ rest', l' = x :: rest' ∧ Replaces r rest' rest := by
  obtain ⟨before, y, after, new, hl, rfl, small⟩ := h
  cases before with
  | nil =>
    simp only [List.nil_append, List.cons.injEq] at hl
    obtain ⟨rfl, rfl⟩ := hl
    exact .inl ⟨new, by simp, small⟩
  | cons b before =>
    simp only [List.cons_append, List.cons.injEq] at hl
    obtain ⟨rfl, rfl⟩ := hl
    exact .inr ⟨before ++ new ++ after, by simp, before, y, after, new, rfl, rfl, small⟩

/-- The empty list does not shrink. -/
theorem acc_nil : Acc (Replaces r) [] :=
  .intro _ fun l' h => by
    obtain ⟨before, x, after, _, hl, _⟩ := h
    simp at hl

/-- Smaller entries in front of an accessible list keep it accessible. -/
theorem acc_append {rest : List α} {x : α}
    (front : ∀ y, r y x → ∀ l, Acc (Replaces r) l → Acc (Replaces r) (y :: l))
    (h : Acc (Replaces r) rest) :
    ∀ new : List α, (∀ y ∈ new, r y x) → Acc (Replaces r) (new ++ rest)
  | [], _ => h
  | y :: new, small =>
    front y (small y (by simp)) _
      (acc_append front h new fun z hz => small z (List.mem_cons_of_mem _ hz))

/-- An accessible entry in front of an accessible list keeps it accessible. -/
theorem acc_cons {x : α} (hx : Acc r x) :
    ∀ rest, Acc (Replaces r) rest → Acc (Replaces r) (x :: rest) := by
  induction hx with
  | intro x _ front =>
    intro rest h
    induction h with
    | intro rest below ih =>
      refine .intro _ fun l' h => ?_
      rcases cons_inv h with ⟨new, rfl, small⟩ | ⟨rest', rfl, h'⟩
      · exact acc_append front (.intro _ below) new small
      · exact ih rest' h'

/-- **No list shrinks forever** if its entries have no endless descent. -/
theorem wellFounded (h : WellFounded r) : WellFounded (Replaces r) := by
  refine ⟨fun l => ?_⟩
  induction l with
  | nil => exact acc_nil
  | cons x rest ih => exact acc_cons (h.apply x) rest ih

end Replaces

end CallTree
