/-
# CallTree.Proofs.Condition.Equality — when two documents count as equal.

Documents are the same (`Value.Same`) if they agree at every depth: numbers by their exact value, lists
item by item, objects by their keys in any order, and a boolean only with itself. The operator `eql`
agrees with that at the top of two documents. Below the top it counts a boolean as the number zero or
one. So it holds of two documents that are the same, and of others only where a boolean stands against a
number (`Condition.eql_iff`).
-/
import Mathlib.Data.List.Forall2
import Mathlib.Algebra.Order.Field.Rat
import Mathlib.Tactic.FieldSimp
import CallTree.Condition
import CallTree.Proofs.Limit
import CallTree.Proofs.Table

namespace CallTree

theorem Binary64.cast_one_ne_zero : (Binary64.one : ℚ) ≠ 0 :=
  Nat.cast_ne_zero.2 (Nat.ne_of_gt Binary64.one_positive)

namespace Value

/-! ## Documents -/

/-- **What a document can hold**: null, booleans, numbers that are numbers and finite, texts, lists, and
objects in which no key is repeated. -/
inductive InDocument : Value → Prop where
  | null : InDocument .null
  | bool (b : Bool) : InDocument (.bool b)
  | int (n : Int) : InDocument (.int n)
  | float (negative : Bool) (units : Nat) : InDocument (.float (.finite negative units))
  | text (s : String) : InDocument (.text s)
  | list {xs : List Value} (each : ∀ x ∈ xs, InDocument x) : InDocument (.list xs)
  | object {fs : Table Value} (once : fs.keys.Nodup) (each : ∀ f ∈ fs, InDocument f.2) :
      InDocument (.object fs)

/-- The exact value of a number. -/
def rational? : Value → Option ℚ
  | .int n => some n
  | .float (.finite negative units) =>
    some ((if negative then -(units : ℚ) else units) / Binary64.one)
  | _ => none

/-- The number that a value counts as if booleans are taken for zero and one. -/
def counted? : Value → Option ℚ
  | .bool b => some (if b then 1 else 0)
  | v => v.rational?

/-! ## Agreement -/

/-- **Two values agree at the top**, by the numbers that they are taken for, and their parts agree by
`below`. -/
inductive Level (number? : Value → Option ℚ) (below : Value → Value → Prop) : Value → Value → Prop
  where
  | null : Level number? below .null .null
  | bool (b : Bool) : Level number? below (.bool b) (.bool b)
  | number {v w : Value} {q : ℚ} (left : number? v = some q) (right : number? w = some q) :
      Level number? below v w
  | text (s : String) : Level number? below (.text s) (.text s)
  | list {xs ys : List Value} (items : List.Forall₂ below xs ys) :
      Level number? below (.list xs) (.list ys)
  | object {fs gs : Table Value} (keys : ∀ key, key ∈ fs.keys ↔ key ∈ gs.keys)
      (values : ∀ key v w, fs.get? key = some v → gs.get? key = some w → below v w) :
      Level number? below (.object fs) (.object gs)

/-- Values that agree still do so where more counts as a number. -/
theorem Level.numbers {number? number'? : Value → Option ℚ} {below : Value → Value → Prop}
    {v w : Value} (level : Level number? below v w)
    (more : ∀ {v : Value} {q : ℚ}, number? v = some q → number'? v = some q) :
    Level number'? below v w := by
  cases level with
  | null => exact .null
  | bool b => exact .bool b
  | number left right => exact .number (more left) (more right)
  | text s => exact .text s
  | list items => exact .list items
  | object keys values => exact .object keys values

/-- Two values agree at every depth. -/
inductive Deep (number? : Value → Option ℚ) : Value → Value → Prop where
  | at {v w : Value} (level : Level number? (Deep number?) v w) : Deep number? v w

/-- **The same value**: no boolean is a number, at any depth. -/
def Same : Value → Value → Prop := Deep rational?

/-- **A boolean stands against a number**, somewhere in two values of which all else has the same
place. -/
inductive Clash : Value → Value → Prop where
  | left {b : Bool} {w : Value} {q : ℚ} (number : w.rational? = some q) : Clash (.bool b) w
  | right {v : Value} {b : Bool} {q : ℚ} (number : v.rational? = some q) : Clash v (.bool b)
  | item {xs ys : List Value} {i : Nat} {v w : Value} (left : xs[i]? = some v)
      (right : ys[i]? = some w) (inner : Clash v w) : Clash (.list xs) (.list ys)
  | field {fs gs : Table Value} {key : String} {v w : Value} (left : fs.get? key = some v)
      (right : gs.get? key = some w) (inner : Clash v w) : Clash (.object fs) (.object gs)

/-! ## Numbers -/

theorem counted_of_rational {v : Value} {q : ℚ} (h : v.rational? = some q) : v.counted? = some q := by
  cases v with
  | bool b => cases h
  | _ => exact h

/-- The place of what counts as a number, on the number line. -/
theorem point_of_counted {v : Value} {q : ℚ} (h : v.counted? = some q) :
    ∃ n : Int, v.point? = some (.units n) ∧ (n : ℚ) = q * Binary64.one := by
  cases v with
  | bool b =>
    cases h
    refine ⟨_, rfl, ?_⟩
    push_cast
    rfl
  | int n =>
    cases h
    refine ⟨_, rfl, ?_⟩
    push_cast
    rfl
  | float x =>
    cases x with
    | finite negative units =>
      cases h
      refine ⟨_, rfl, ?_⟩
      rw [div_mul_cancel₀ _ Binary64.cast_one_ne_zero]
      cases negative <;> simp
    | _ => cases h
  | _ => cases h

/-- What stands in a document and has a place on the number line counts as a number. -/
theorem counted_of_point {v : Value} (inDocument : v.InDocument) {p : Binary64.Point}
    (h : v.point? = some p) : ∃ q, v.counted? = some q := by
  cases inDocument with
  | bool b => exact ⟨_, rfl⟩
  | int n => exact ⟨_, rfl⟩
  | float negative units => exact ⟨_, rfl⟩
  | _ => cases h

/-- Two places on the number line are the same if what is there counts as the same number. -/
theorem samePoint_iff {v w : Value} (hv : v.InDocument) (hw : w.InDocument) :
    samePoint v w = true ↔ ∃ q, v.counted? = some q ∧ w.counted? = some q := by
  unfold samePoint
  constructor
  · intro same
    split at same
    · rename_i p p' here there
      obtain rfl : p = p' := of_decide_eq_true same
      obtain ⟨q, left⟩ := counted_of_point hv here
      obtain ⟨q', right⟩ := counted_of_point hw there
      obtain ⟨n, place, value⟩ := point_of_counted left
      obtain ⟨n', place', value'⟩ := point_of_counted right
      rw [here] at place
      rw [there] at place'
      cases place
      cases place'
      have value_eq : q' = q :=
        mul_right_cancel₀ Binary64.cast_one_ne_zero (value'.symm.trans value)
      exact ⟨q, left, value_eq ▸ right⟩
    · cases same
  · rintro ⟨q, left, right⟩
    obtain ⟨n, place, value⟩ := point_of_counted left
    obtain ⟨n', place', value'⟩ := point_of_counted right
    obtain rfl : n = n' := by exact_mod_cast value.trans value'.symm
    rw [place, place']
    exact decide_eq_true rfl

/-! ## Loose equality -/

theorem deep_iff {number? : Value → Option ℚ} {v w : Value} :
    Deep number? v w ↔ Level number? (Deep number?) v w :=
  ⟨fun ⟨level⟩ => level, .at⟩

/-- A number is equal to what counts as the same number. -/
theorem same_iff_of_counts {v w : Value} (hv : v.InDocument) (hw : w.InDocument)
    (counts : v.counted? ≠ none) : same v w = true ↔ Deep counted? v w := by
  have compared : same v w = samePoint v w := by
    cases v with
    | bool _ | int _ | float _ => rfl
    | _ => exact absurd rfl counts
  rw [compared, samePoint_iff hv hw, deep_iff]
  constructor
  · rintro ⟨q, left, right⟩
    exact .number left right
  · intro level
    cases level with
    | bool b => exact ⟨_, rfl, rfl⟩
    | number left right => exact ⟨_, left, right⟩
    | _ => exact absurd rfl counts

/-- Values of two kinds are equal only if both count as the same number. -/
theorem same_iff_of_ne_kind {v w : Value} (hv : v.InDocument) (hw : w.InDocument)
    (other : v.kind ≠ w.kind) : same v w = true ↔ Deep counted? v w := by
  have compared : same v w = samePoint v w := by
    unfold same
    split
    case h_7 => cases hv
    case h_9 => rfl
    all_goals exact absurd rfl other
  rw [compared, samePoint_iff hv hw, deep_iff]
  constructor
  · rintro ⟨q, left, right⟩
    exact .number left right
  · intro level
    cases level with
    | number left right => exact ⟨_, left, right⟩
    | _ => exact absurd rfl other

theorem sameItems_iff {R : Value → Value → Prop} {xs ys : List Value}
    (each : ∀ x ∈ xs, ∀ y ∈ ys, same x y = true ↔ R x y) :
    sameItems xs ys = true ↔ List.Forall₂ R xs ys := by
  induction xs generalizing ys with
  | nil => cases ys <;> simp [sameItems]
  | cons x xs ih =>
    cases ys with
    | nil => simp [sameItems]
    | cons y ys =>
      have others := ih fun x mem y mem' =>
        each x (List.mem_cons_of_mem _ mem) y (List.mem_cons_of_mem _ mem')
      rw [sameItems, Bool.and_eq_true, List.forall₂_cons, others,
        each x List.mem_cons_self y List.mem_cons_self]

theorem sameFields_iff {R : Value → Value → Prop} {fs gs : Table Value}
    (each : ∀ f ∈ fs, ∀ w, gs.get? f.1 = some w → (same f.2 w = true ↔ R f.2 w)) :
    sameFields fs gs = true ↔ ∀ f ∈ fs, ∃ w, gs.get? f.1 = some w ∧ R f.2 w := by
  induction fs with
  | nil => simp [sameFields]
  | cons f fs ih =>
    obtain ⟨k, v⟩ := f
    have others := ih fun f mem => each f (List.mem_cons_of_mem _ mem)
    have here := each (k, v) List.mem_cons_self
    rw [sameFields, Bool.and_eq_true, List.forall_mem_cons, others]
    cases found : Table.get? gs k with
    | none => simp
    | some w => simp [here w found]

/-- Objects without repeated keys are equal if they have the same keys and equal values under them. -/
theorem same_object_iff {R : Value → Value → Prop} {fs gs : Table Value} (once : fs.keys.Nodup)
    (once' : gs.keys.Nodup)
    (each : ∀ f ∈ fs, ∀ w, gs.get? f.1 = some w → (same f.2 w = true ↔ R f.2 w)) :
    same (.object fs) (.object gs) = true ↔
      (∀ key, key ∈ fs.keys ↔ key ∈ gs.keys) ∧
        ∀ key v w, fs.get? key = some v → gs.get? key = some w → R v w := by
  rw [same, Bool.and_eq_true, decide_eq_true_iff, sameFields_iff each]
  have lengths (t : Table Value) : t.keys.length = t.length := List.length_map _
  constructor
  · rintro ⟨length, fields⟩
    -- Equally many keys, none of them repeated, and each key of the one table is among the others.
    have within : fs.keys ⊆ gs.keys := by
      intro key mem
      obtain ⟨f, entry, rfl⟩ := List.mem_map.1 mem
      obtain ⟨w, found, -⟩ := fields f entry
      exact (Table.has_iff gs f.1).1 (by rw [Table.has, found]; rfl)
    have keys : fs.keys.Perm gs.keys :=
      (List.subperm_of_subset once within).perm_of_length_le (by rw [lengths, lengths, length])
    refine ⟨fun key => keys.mem_iff, ?_⟩
    intro key v w left right
    obtain ⟨w', found, related⟩ := fields (key, v) (Table.mem_of_get? left)
    rw [right, Option.some.injEq] at found
    exact found ▸ related
  · rintro ⟨keys, values⟩
    have perm : fs.keys.Perm gs.keys := (List.perm_ext_iff_of_nodup once once').2 keys
    refine ⟨by rw [← lengths, ← lengths, perm.length_eq], ?_⟩
    intro f mem
    have present : gs.has f.1 = true :=
      (Table.has_iff gs f.1).2 ((keys f.1).1 (List.mem_map_of_mem mem))
    obtain ⟨w, found⟩ := Option.isSome_iff_exists.1 present
    exact ⟨w, found, values f.1 f.2 w ((Table.get?_eq_some_iff_mem once).2 mem) found⟩

/-- **Loose equality of documents** is agreement at every depth, with booleans for numbers. -/
theorem same_iff {v w : Value} (hv : v.InDocument) (hw : w.InDocument) :
    same v w = true ↔ Deep counted? v w := by
  have right := hw
  -- By the parts of the first document. Only two lists and two objects have parts to compare.
  induction hv generalizing w with
  | bool b => exact same_iff_of_counts (.bool b) hw nofun
  | int n => exact same_iff_of_counts (.int n) hw nofun
  | float negative units => exact same_iff_of_counts (.float negative units) hw nofun
  | null =>
    cases hw with
    | null => exact iff_of_true rfl (.at .null)
    | _ => exact same_iff_of_ne_kind .null right nofun
  | text s =>
    cases hw with
    | text t =>
      rw [same, decide_eq_true_iff]
      constructor
      · rintro rfl
        exact .at (.text s)
      · rintro ⟨level⟩
        cases level with
        | number left _ => cases left
        | text _ => rfl
    | _ => exact same_iff_of_ne_kind (.text s) right nofun
  | list each ih =>
    cases hw with
    | list each' =>
      rw [same, sameItems_iff fun x mem y mem' => ih x mem (each' y mem') (each' y mem')]
      constructor
      · exact fun items => .at (.list items)
      · rintro ⟨level⟩
        cases level with
        | number left _ => cases left
        | list items => exact items
    | _ => exact same_iff_of_ne_kind (.list each) right nofun
  | object once each ih =>
    cases hw with
    | @object gs once' each' =>
      rw [same_object_iff once once' fun f mem w found =>
        have inside := each' (f.1, w) (Table.mem_of_get? found)
        ih f mem inside inside]
      constructor
      · exact fun ⟨keys, values⟩ => .at (.object keys values)
      · rintro ⟨level⟩
        cases level with
        | number left _ => cases left
        | object keys values => exact ⟨keys, values⟩
    | _ => exact same_iff_of_ne_kind (.object once each) right nofun

/-! ## Strict equality -/

/-- What has an exact value is a number. -/
theorem isNumber_of_rational {v : Value} {q : ℚ} (h : v.rational? = some q) : v.isNumber = true := by
  cases v with
  | int _ | float _ => rfl
  | _ => cases h

/-- Only booleans count as more than they are. -/
theorem rational_of_counted {v : Value} {q : ℚ} (h : v.counted? = some q) :
    (∃ b, v = .bool b) ∨ v.rational? = some q := by
  cases v with
  | bool b => exact .inl ⟨b, rfl⟩
  | _ => exact .inr h

/-- Booleans that count as the same number are the same. -/
theorem bool_of_counted {b c : Bool} {q : ℚ} (left : (Value.bool b).counted? = some q)
    (right : (Value.bool c).counted? = some q) : b = c := by
  have counted := left.trans right.symm
  cases b <;> cases c <;> simp [counted?] at counted ⊢

/-- **Strict equality of documents** tells booleans and numbers apart at the top, and not below. -/
theorem strictlySame_iff {v w : Value} (hv : v.InDocument) (hw : w.InDocument) :
    strictlySame v w = true ↔ Level rational? (Deep counted?) v w := by
  unfold strictlySame
  by_cases numbers : (v.isNumber && w.isNumber) = true
  · rw [if_pos numbers, samePoint_iff hv hw]
    constructor
    · rintro ⟨q, left, right⟩
      rcases rational_of_counted left with ⟨b, rfl⟩ | left
      · cases numbers
      rcases rational_of_counted right with ⟨b, rfl⟩ | right
      · rw [Bool.and_eq_true] at numbers
        cases numbers.2
      exact .number left right
    · intro level
      cases level with
      | number left right => exact ⟨_, counted_of_rational left, counted_of_rational right⟩
      | _ => cases numbers
  · rw [if_neg numbers, Bool.and_eq_true, decide_eq_true_iff, same_iff hv hw, deep_iff]
    have apart {q q' : ℚ} (left : v.rational? = some q) (right : w.rational? = some q') : False :=
      numbers (by rw [isNumber_of_rational left, isNumber_of_rational right]; rfl)
    constructor
    · rintro ⟨kinds, level⟩
      cases level with
      | null => exact .null
      | bool b => exact .bool b
      | text s => exact .text s
      | list items => exact .list items
      | object keys values => exact .object keys values
      | number left right =>
        -- Of one kind and not both numbers: two booleans.
        rcases rational_of_counted left with ⟨b, rfl⟩ | left'
        · rcases rational_of_counted right with ⟨c, rfl⟩ | right'
          · rw [bool_of_counted left right]
            exact .bool c
          · cases w <;> cases kinds
            cases right'
        · rcases rational_of_counted right with ⟨c, rfl⟩ | right'
          · cases v <;> cases kinds
            cases left'
          · exact (apart left' right').elim
    · intro level
      refine ⟨?_, level.numbers counted_of_rational⟩
      cases level with
      | number left right => exact (apart left right).elim
      | _ => rfl

/-! ## Booleans against numbers -/

/-- What counts as the same number is the same, unless one of the two is a boolean. -/
theorem same_of_counted {v w : Value} {q : ℚ} (left : v.counted? = some q)
    (right : w.counted? = some q) (apart : ¬ Clash v w) : Same v w := by
  rcases rational_of_counted left with ⟨b, rfl⟩ | left'
  · rcases rational_of_counted right with ⟨c, rfl⟩ | right'
    · rw [bool_of_counted left right]
      exact .at (.bool c)
    · exact absurd (.left right') apart
  · rcases rational_of_counted right with ⟨c, rfl⟩ | right'
    · exact absurd (.right left') apart
    · exact .at (.number left' right')

/-- The items of two lists are the same if they agree and do not clash. -/
theorem same_items_iff {xs ys : List Value}
    (each : ∀ x ∈ xs, ∀ y, Same x y ↔ Deep counted? x y ∧ ¬ Clash x y) :
    List.Forall₂ Same xs ys ↔
      List.Forall₂ (Deep counted?) xs ys ∧ ¬ Clash (.list xs) (.list ys) := by
  simp only [List.forall₂_iff_get]
  constructor
  · rintro ⟨length, items⟩
    refine ⟨⟨length, fun i left right => ?_⟩, ?_⟩
    · exact ((each _ (List.get_mem _ _) _).1 (items i left right)).1
    · rintro (_ | _ | ⟨left, right, inner⟩)
      obtain ⟨bound, rfl⟩ := List.getElem?_eq_some_iff.1 left
      obtain ⟨bound', rfl⟩ := List.getElem?_eq_some_iff.1 right
      exact ((each _ (List.get_mem _ _) _).1 (items _ bound bound')).2 inner
  · rintro ⟨⟨length, items⟩, apart⟩
    refine ⟨length, fun i left right => ?_⟩
    refine (each _ (List.get_mem _ _) _).2 ⟨items i left right, fun inner => apart ?_⟩
    exact .item (List.getElem?_eq_getElem left) (List.getElem?_eq_getElem right) inner

/-- The same for the values of two objects. -/
theorem same_fields_iff {fs gs : Table Value}
    (each : ∀ f ∈ fs, ∀ w, Same f.2 w ↔ Deep counted? f.2 w ∧ ¬ Clash f.2 w) :
    (∀ key v w, fs.get? key = some v → gs.get? key = some w → Same v w) ↔
      (∀ key v w, fs.get? key = some v → gs.get? key = some w → Deep counted? v w) ∧
        ¬ Clash (.object fs) (.object gs) := by
  constructor
  · intro values
    refine ⟨fun key v w left right => ?_, ?_⟩
    · exact ((each _ (Table.mem_of_get? left) w).1 (values key v w left right)).1
    · rintro (_ | _ | _ | ⟨left, right, inner⟩)
      exact ((each _ (Table.mem_of_get? left) _).1 (values _ _ _ left right)).2 inner
  · rintro ⟨values, apart⟩ key v w left right
    exact (each _ (Table.mem_of_get? left) w).2
      ⟨values key v w left right, fun inner => apart (.field left right inner)⟩

/-- What is said of documents holds of a value without parts. -/
theorem same_iff_of_leaf {v w : Value} (noList : ∀ xs, v ≠ .list xs)
    (noObject : ∀ fs, v ≠ .object fs) : Same v w ↔ Deep counted? v w ∧ ¬ Clash v w := by
  constructor
  · rintro ⟨level⟩
    cases level with
    | null => exact ⟨.at .null, nofun⟩
    | bool b =>
      refine ⟨.at (.bool b), ?_⟩
      rintro (number | number) <;> cases number
    | number left right =>
      refine ⟨.at (.number (counted_of_rational left) (counted_of_rational right)), ?_⟩
      rintro (_ | _)
      · cases left
      · cases right
      · cases left
      · cases left
    | text s => exact ⟨.at (.text s), nofun⟩
    | list items => exact absurd rfl (noList _)
    | object keys values => exact absurd rfl (noObject _)
  · rintro ⟨⟨level⟩, apart⟩
    cases level with
    | null => exact .at .null
    | bool b => exact .at (.bool b)
    | number left right => exact same_of_counted left right apart
    | text s => exact .at (.text s)
    | list items => exact absurd rfl (noList _)
    | object keys values => exact absurd rfl (noObject _)

/-- **The same documents** are those that agree with booleans for numbers, if no boolean stands against a
number. -/
theorem same_iff_no_clash {v w : Value} (hv : v.InDocument) :
    Same v w ↔ Deep counted? v w ∧ ¬ Clash v w := by
  induction hv generalizing w with
  | null | bool _ | int _ | float _ _ | text _ => exact same_iff_of_leaf nofun nofun
  | list each ih =>
    constructor
    · rintro ⟨level⟩
      cases level with
      | number left _ => cases left
      | list items =>
        obtain ⟨agree, apart⟩ := (same_items_iff fun x mem _ => ih x mem).1 items
        exact ⟨.at (.list agree), apart⟩
    · rintro ⟨⟨level⟩, apart⟩
      cases level with
      | number left _ => cases left
      | list agree => exact .at (.list ((same_items_iff fun x mem _ => ih x mem).2 ⟨agree, apart⟩))
  | object once each ih =>
    constructor
    · rintro ⟨level⟩
      cases level with
      | number left _ => cases left
      | object keys values =>
        obtain ⟨agree, apart⟩ := (same_fields_iff fun f mem _ => ih f mem).1 values
        exact ⟨.at (.object keys agree), apart⟩
    · rintro ⟨⟨level⟩, apart⟩
      cases level with
      | number left _ => cases left
      | object keys agree =>
        exact .at (.object keys ((same_fields_iff fun f mem _ => ih f mem).2 ⟨agree, apart⟩))

/-- Documents that are the same agree at the top, a boolean with no number, and so do their parts. -/
theorem level_of_same {v w : Value} (hv : v.InDocument) (same : Same v w) :
    Level rational? (Deep counted?) v w := by
  obtain ⟨level⟩ := same
  cases level with
  | null => exact .null
  | bool b => exact .bool b
  | number left right => exact .number left right
  | text s => exact .text s
  | list items =>
    cases hv with
    | list each =>
      exact .list ((same_items_iff fun x mem _ => same_iff_no_clash (each x mem)).1 items).1
  | object keys values =>
    cases hv with
    | object _ each =>
      exact .object keys
        ((same_fields_iff fun f mem _ => same_iff_no_clash (each f mem)).1 values).1

end Value

namespace Condition

open Value

/-- **Equality of documents in conditions.** The operator `eql` holds of two documents exactly if they
agree at the top, a boolean with no number, and their parts agree with booleans for the numbers zero and
one. So documents are the same, booleans apart from numbers at every depth, exactly if `eql` holds of them
and no boolean of one stands against a number of the other. -/
theorem eql_iff {v e : Value} (hv : v.InDocument) (he : e.InDocument) :
    (compare .eql v e = .ok true ↔ Level rational? (Deep counted?) v e) ∧
    (compare .eql v e = .ok false ↔ ¬ Level rational? (Deep counted?) v e) ∧
    (Same v e ↔ compare .eql v e = .ok true ∧ ¬ Clash v e) := by
  have holds : compare .eql v e = .ok true ↔ Level rational? (Deep counted?) v e := by
    show Except.ok (v.strictlySame e) = .ok true ↔ _
    rw [Except.ok.injEq, strictlySame_iff hv he]
  refine ⟨holds, ?_, ?_⟩
  · rw [← holds]
    show Except.ok (v.strictlySame e) = .ok false ↔ ¬ Except.ok (v.strictlySame e) = .ok true
    cases v.strictlySame e <;> simp
  · rw [holds]
    constructor
    · intro same
      exact ⟨level_of_same hv same, ((same_iff_no_clash hv).1 same).2⟩
    · rintro ⟨level, apart⟩
      exact (same_iff_no_clash hv).2 ⟨.at (level.numbers counted_of_rational), apart⟩

/-- Two objects that say the same, with their fields in another order and a number in another form. -/
theorem eql_iff_reordered :
    let v : Value := .object [("n", .int 1), ("flags", .list [.bool true])]
    let e : Value :=
      .object [("flags", .list [.bool true]), ("n", .float (.finite false Binary64.one))]
    compare .eql v e = .ok true ∧ Same v e ∧ ¬ Clash v e := by
  intro v e
  have hv : v.InDocument := .object (by decide) <| by
    simp only [List.forall_mem_cons, List.not_mem_nil, false_imp_iff, implies_true, and_true]
    exact ⟨.int 1, .list (by simpa using .bool true)⟩
  have he : e.InDocument := .object (by decide) <| by
    simp only [List.forall_mem_cons, List.not_mem_nil, false_imp_iff, implies_true, and_true]
    exact ⟨.list (by simpa using .bool true), .float false _⟩
  have whole : (Value.float (.finite false Binary64.one)).rational? = some ((1 : Int) : ℚ) := by
    show some ((Binary64.one : ℚ) / Binary64.one) = _
    rw [div_self Binary64.cast_one_ne_zero, Int.cast_one]
  have same : Same v e := by
    refine .at (.object ?_ ?_)
    · intro key
      simp [Table.keys, or_comm]
    · intro key x y left right
      by_cases number : key = "n"
      · subst number
        obtain rfl : Value.int 1 = x := by simpa [Table.get?] using left
        obtain rfl : Value.float _ = y := by simpa [Table.get?] using right
        exact .at (.number rfl whole)
      · have other : "n" ≠ key := fun same => number same.symm
        obtain ⟨rfl, rfl⟩ : "flags" = key ∧ Value.list [.bool true] = x := by
          simpa [Table.get?, other] using left
        obtain rfl : Value.list [.bool true] = y := by simpa [Table.get?] using right
        exact .at (.list (.cons (.at (.bool true)) .nil))
  obtain ⟨-, -, exact_⟩ := eql_iff hv he
  exact ⟨(exact_.1 same).1, same, (exact_.1 same).2⟩

/-- **A boolean in a list counts as a number**: `eql` holds of two lists that are not the same. -/
theorem eql_conflates : compare .eql (.list [.bool true]) (.list [.int 1]) = .ok true ∧
    ¬ Same (.list [.bool true]) (.list [.int 1]) := by
  constructor
  · simp [compare, strictlySame, isNumber, kind, same, sameItems, samePoint, point?]
  · rintro ⟨_ | _⟩
    · rename_i left _
      cases left
    · rename_i items
      obtain ⟨⟨level⟩, -⟩ := List.forall₂_cons.1 items
      cases level with
      | number left _ => cases left

end Condition

end CallTree
