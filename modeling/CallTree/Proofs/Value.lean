/-
# CallTree.Proofs.Value — the parts of a value, and which values can be written.

What a document or a message has to say of a value are its parts (`Value.PartOf`), at any depth. A value has
a literal exactly if no part of it is a whole number of too many digits (`Value.exists_literal_iff`).
-/
import CallTree.Proofs.Except
import CallTree.Proofs.Number.Decimal
import CallTree.Value.Literal

namespace CallTree.Value

/-! ## Parts -/

/-- **The parts of a value that a document has to say**: the value itself, the items of a list or
tuple among its parts, and the values of the fields of an object among them. -/
inductive PartOf (w : Value) : Value → Prop where
  | self : PartOf w w
  | item {xs : List Value} {x : Value} (mem : x ∈ xs) (inner : PartOf w x) : PartOf w (.list xs)
  | tupleItem {xs : List Value} {x : Value} (mem : x ∈ xs) (inner : PartOf w x) :
      PartOf w (.tuple xs)
  | field {fs : List (String × Value)} {f : String × Value} (mem : f ∈ fs)
      (inner : PartOf w f.2) : PartOf w (.object fs)

theorem partOf_items_iff {v w : Value} {xs : List Value} (has : v.items? = some xs) :
    PartOf w v ↔ w = v ∨ ∃ x ∈ xs, PartOf w x := by
  constructor
  · rintro (_ | ⟨mem, inner⟩ | ⟨mem, inner⟩ | ⟨mem, inner⟩)
    · exact .inl rfl
    · cases has
      exact .inr ⟨_, mem, inner⟩
    · cases has
      exact .inr ⟨_, mem, inner⟩
    · cases has
  · rintro (rfl | ⟨x, mem, inner⟩)
    · exact .self
    · cases v <;> cases has
      · exact .item mem inner
      · exact .tupleItem mem inner

theorem partOf_object_iff {w : Value} {fs : Table Value} :
    PartOf w (.object fs) ↔ w = .object fs ∨ ∃ f ∈ fs, PartOf w f.2 := by
  constructor
  · rintro (_ | _ | _ | ⟨mem, inner⟩)
    · exact .inl rfl
    · exact .inr ⟨_, mem, inner⟩
  · rintro (rfl | ⟨f, mem, inner⟩)
    · exact .self
    · exact .field mem inner

/-- A part of a part is a part. -/
theorem PartOf.trans {u v w : Value} (inner : PartOf u v) (outer : PartOf v w) : PartOf u w := by
  induction outer with
  | self => exact inner
  | item mem _ ih => exact .item mem ih
  | tupleItem mem _ ih => exact .tupleItem mem ih
  | field mem _ ih => exact .field mem ih

/-! ## Writing -/

/-- **A value that can be written**: no whole number in it, at any depth, has too many digits. -/
def Writable (v : Value) : Prop := ∀ n, PartOf (.int n) v → Decimal.Short n

theorem writable_items_iff {v : Value} {xs : List Value} (has : v.items? = some xs) :
    v.Writable ↔ ∀ x ∈ xs, x.Writable := by
  simp only [Writable, partOf_items_iff has]
  constructor
  · exact fun h x mem n inner => h n (.inr ⟨x, mem, inner⟩)
  · rintro h n (rfl | ⟨x, mem, inner⟩)
    · cases has
    · exact h x mem n inner

theorem writable_object_iff {fs : Table Value} : (Value.object fs).Writable ↔ ∀ f ∈ fs, f.2.Writable := by
  simp only [Writable, partOf_object_iff, reduceCtorEq, false_or]
  exact ⟨fun h f mem n inner => h n ⟨f, mem, inner⟩, fun h n ⟨f, mem, inner⟩ => h f mem n inner⟩

theorem writable_int_iff {n : Int} : (Value.int n).Writable ↔ Decimal.Short n := by
  constructor
  · exact fun h => h n .self
  · rintro short _ ⟨⟩
    exact short

/-- A value without parts that is no whole number can be written. -/
theorem writable_of_kind {v : Value} (plain : v.kind ∉ [Kind.int, .list, .tuple, .object]) : v.Writable := by
  rintro n (_ | _ | _ | _) <;> simp [kind] at plain

theorem writable_text (s : String) : (Value.text s).Writable :=
  writable_of_kind (by simp [kind])

mutual

/-- **A value has a literal** exactly if it can be written. -/
theorem exists_literal_iff : (v : Value) → ((∃ s, v.literal = .ok s) ↔ v.Writable)
  | .int n => by
    simp only [literal, Decimal.whole_eq_ok_iff, exists_and_left, exists_eq, and_true, writable_int_iff]
  | .list xs => by
    rw [literal, writable_items_iff rfl, ← exists_literals_iff xs, map_succeeds_iff]
  | .tuple xs => by
    rw [literal, writable_items_iff rfl, ← exists_literals_iff xs, map_succeeds_iff]
  | .object fs => by
    rw [literal, writable_object_iff, ← exists_fieldLiterals_iff fs, map_succeeds_iff]
  | .null | .bool _ | .float _ | .text _ | .octets _ | .date _ _ | .pattern _ | .foreign _ _ => by
    rw [literal]
    exact iff_of_true ⟨_, rfl⟩ (writable_of_kind (by simp [kind]))

/-- Items have literals exactly if all of them can be written. -/
theorem exists_literals_iff : (xs : List Value) → ((∃ ss, literals xs = .ok ss) ↔ ∀ x ∈ xs, x.Writable)
  | [] => by simp [literals]
  | x :: rest => by
    rw [literals, List.forall_mem_cons, ← exists_literal_iff x, ← exists_literals_iff rest]
    cases literal x <;> simp [map_eq_ok_iff]

/-- Fields have literals exactly if the values of all of them can be written. -/
theorem exists_fieldLiterals_iff : (fs : List (String × Value)) →
    ((∃ ss, fieldLiterals fs = .ok ss) ↔ ∀ f ∈ fs, f.2.Writable)
  | [] => by simp [fieldLiterals]
  | (_, x) :: rest => by
    rw [fieldLiterals, List.forall_mem_cons, ← exists_literal_iff x, ← exists_fieldLiterals_iff rest]
    cases literal x <;> simp [map_eq_ok_iff]

end

/-- So it is with the form in which a sentence shows a value. -/
theorem exists_display_iff (v : Value) : (∃ s, v.display = .ok s) ↔ v.Writable := by
  cases v with
  | text s => exact iff_of_true ⟨s, rfl⟩ (writable_text s)
  | _ => exact exists_literal_iff _

end CallTree.Value
