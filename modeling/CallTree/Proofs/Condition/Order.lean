/-
# CallTree.Proofs.Condition.Order — the comparisons of conditions fit together.

Numbers that are numbers lie on one line, whatever form they have, and so do texts. On a line
(`Value.Line`) the six comparisons are those of a linear order, so exactly one of `lt`, `eql` and `gt`
holds of two operands, and `lt` passes through operands that are equal. The place of a number is its exact
value (`Value.magnitude?`), and that of a text is the list of its code points.

Operands of other kinds have no line. But whatever they are, a comparison says the same as its converse
with the operands exchanged, since loose equality is symmetric at every depth (`Value.same_comm`). The two
parts together are `Condition.coherent`.
-/
import Mathlib.Data.List.Lex
import Mathlib.Order.WithBot
import CallTree.Proofs.Condition.Conjunction
import CallTree.Proofs.Condition.Equality

namespace CallTree

namespace Value

/-! ## Orders on a line -/

namespace Order

variable {α : Type} [LinearOrder α]

/-- What an order says of two places on a line. -/
def Holds : Order → α → α → Prop
  | .less, x, y => x < y
  | .lessOrSame, x, y => x ≤ y
  | .greater, x, y => y < x
  | .greaterOrSame, x, y => y ≤ x

instance (o : Order) (x y : α) : Decidable (o.Holds x y) :=
  match o with
  | .less => inferInstanceAs (Decidable (x < y))
  | .lessOrSame => inferInstanceAs (Decidable (x ≤ y))
  | .greater => inferInstanceAs (Decidable (y < x))
  | .greaterOrSame => inferInstanceAs (Decidable (y ≤ x))

/-- The order that says the same with its two sides exchanged. -/
def converse : Order → Order
  | .less => .greater
  | .lessOrSame => .greaterOrSame
  | .greater => .less
  | .greaterOrSame => .lessOrSame

theorem holds_converse (o : Order) (x y : α) : o.converse.Holds y x ↔ o.Holds x y := by
  cases o <;> exact Iff.rfl

/-- An order is decided by whether two places are the same and whether the first is less. -/
theorem decide_eq (o : Order) {x y : α} {same less : Bool} (hs : same = true ↔ x = y)
    (hl : less = true ↔ x < y) : o.decide same less = Decidable.decide (o.Holds x y) := by
  rw [Bool.eq_iff_iff, decide_eq_true_iff]
  cases o with
  | less => exact hl
  | lessOrSame =>
    show (same || less) = true ↔ x ≤ y
    rw [Bool.or_eq_true, hs, hl, le_iff_eq_or_lt]
  | greater =>
    show (!same && !less) = true ↔ y < x
    rw [Bool.and_eq_true, Bool.not_eq_true', Bool.not_eq_true', ← Bool.not_eq_true,
      ← Bool.not_eq_true, hs, hl, ← not_or, ← le_iff_eq_or_lt, not_le]
  | greaterOrSame =>
    show (!less) = true ↔ y ≤ x
    rw [Bool.not_eq_true', ← Bool.not_eq_true, hl, not_lt]

/-- A first item that two lists share does not count. -/
theorem holds_cons (o : Order) (x : α) (xs ys : List α) :
    o.Holds (x :: xs) (x :: ys) ↔ o.Holds xs ys := by
  cases o <;> simp [Holds, ← not_lt]

end Order

/-- Two lists are ordered as the lists of the places of their items. -/
theorem lexicographic_eq {α β : Type} [DecidableEq α] [LinearOrder β] {less : α → α → Bool}
    {place : α → β} (apart : Function.Injective place)
    (hl : ∀ a b, less a b = true ↔ place a < place b) (o : Order) (as bs : List α) :
    lexicographic less o as bs = decide (o.Holds (as.map place) (bs.map place)) := by
  induction as generalizing bs with
  | nil =>
    cases bs with
    | nil => exact o.decide_eq (by simp) (by simp)
    | cons b bs => exact o.decide_eq (by simp) (by simp)
  | cons a as ih =>
    cases bs with
    | nil => exact o.decide_eq (by simp) (by simp)
    | cons b bs =>
      rw [lexicographic]
      split
      · rename_i same
        rw [ih, same, List.map_cons, List.map_cons, decide_eq_decide, Order.holds_cons]
      · -- The first items differ, so they decide alone.
        rename_i differ
        have places : place a ≠ place b := fun same => differ (apart same)
        apply o.decide_eq
        · simp [places]
        · simp [hl, List.cons_lt_cons_iff, places]

/-! ## Places of numbers and texts -/

end Value

namespace Binary64.Point

/-- The number at a point, with the infinities at the two ends. -/
def value : Point → WithBot (WithTop ℚ)
  | .bottom => ⊥
  | .units n => (((n : ℚ) / one : ℚ) : WithTop ℚ)
  | .top => (⊤ : WithTop ℚ)

/-- The units that there are in one. Of them it matters only that there are some. -/
theorem exists_scale : ∃ scale : ℚ, 0 < scale ∧
    ∀ n : Int, value (.units n) = ((n / scale : ℚ) : WithTop ℚ) :=
  ⟨one, Nat.cast_pos.2 one_positive, fun _ => rfl⟩

theorem value_bottom : value .bottom = ⊥ := rfl

theorem value_top : value .top = (⊤ : WithTop ℚ) := rfl

theorem value_inj {p q : Point} : p.value = q.value ↔ p = q := by
  obtain ⟨scale, positive, units⟩ := exists_scale
  cases p <;> cases q <;>
    simp [value_bottom, value_top, units, WithBot.coe_inj, div_left_inj' positive.ne']

theorem lt_iff_value {p q : Point} : p.lt q = true ↔ p.value < q.value := by
  obtain ⟨scale, positive, units⟩ := exists_scale
  cases p with
  | bottom => cases q <;> simp [value_bottom, value_top, units, Point.lt]
  | units n =>
    cases q with
    | bottom => simp [value_bottom, Point.lt]
    | units m => simp [units, Point.lt, WithBot.coe_lt_coe, div_lt_div_iff_of_pos_right positive]
    | top => exact iff_of_true rfl (WithBot.coe_lt_coe.2 (WithTop.coe_lt_top _))
  | top => cases q <;> simp [value_bottom, value_top, units, Point.lt]

end Binary64.Point

namespace Value

/-- **The exact value of a number**, with the infinities at the two ends of the line. What is no number has
none, and neither has a boolean. -/
def magnitude? : Value → Option (WithBot (WithTop ℚ))
  | .float (.infinite true) => some ⊥
  | .float (.infinite false) => some (⊤ : WithTop ℚ)
  | v => v.rational?.map fun q : ℚ => ((q : WithTop ℚ) : WithBot (WithTop ℚ))

/-- **The code points of a text.** -/
def codePoints? : Value → Option (List Nat)
  | .text s => some (s.toList.map Char.toNat)
  | _ => none

/-- **Numbers that are numbers have an exact value**, and nothing else has. -/
theorem isSome_magnitude? (v : Value) :
    v.magnitude?.isSome = true ↔ v.isNumber = true ∧ v ≠ .float .nan := by
  cases v with
  | int n => simp [magnitude?, rational?, isNumber]
  | float x =>
    cases x with
    | nan => simp [magnitude?, rational?]
    | infinite negative => cases negative <;> simp [magnitude?, isNumber]
    | finite negative units => exact iff_of_true rfl ⟨rfl, by simp⟩
  | _ => simp [magnitude?, rational?, isNumber]

/-- A number lies at the point of its exact value. -/
theorem point_of_magnitude {v : Value} {x : WithBot (WithTop ℚ)} (h : v.magnitude? = some x) :
    v.isNumber = true ∧ ∃ p, v.point? = some p ∧ p.value = x := by
  have finite {q : ℚ} (hq : v.rational? = some q)
      (hx : ((q : WithTop ℚ) : WithBot (WithTop ℚ)) = x) :
      v.isNumber = true ∧ ∃ p, v.point? = some p ∧ p.value = x := by
    obtain ⟨n, place, units⟩ := point_of_counted (counted_of_rational hq)
    refine ⟨isNumber_of_rational hq, _, place, ?_⟩
    rw [← hx, Binary64.Point.value, units, mul_div_cancel_right₀ _ Binary64.cast_one_ne_zero]
  unfold magnitude? at h
  split at h
  · cases h
    exact ⟨rfl, .bottom, rfl, rfl⟩
  · cases h
    exact ⟨rfl, .top, rfl, rfl⟩
  · obtain ⟨q, hq, hx⟩ := Option.map_eq_some_iff.1 h
    exact finite hq hx

/-- **A line**: values with a place on it are compared as their places. -/
structure Line {α : Type} [LinearOrder α] (place? : Value → Option α) : Prop where
  ordered : ∀ {a b x y}, place? a = some x → place? b = some y → ∀ o,
    ordered? o a b = some (decide (o.Holds x y))
  equal : ∀ {a b x y}, place? a = some x → place? b = some y → (strictlySame a b = true ↔ x = y)

/-- Numbers of all kinds are ordered by their points. -/
theorem ordered_of_points {v w : Value} {p q : Binary64.Point} (hv : v.point? = some p)
    (hw : w.point? = some q) (o : Order) :
    ordered? o v w = some (o.decide (decide (p = q)) (p.lt q)) := by
  cases v <;> try cases hv
  all_goals
    cases w <;> try cases hw
    all_goals simp_all [ordered?, kind, point?]

theorem Line.converse {α : Type} [LinearOrder α] {place? : Value → Option α} (line : Line place?)
    {a b : Value} {x y : α} (ha : place? a = some x) (hb : place? b = some y) (o : Order) :
    ordered? o a b = ordered? o.converse b a := by
  rw [line.ordered ha hb, line.ordered hb ha, Option.some.injEq, decide_eq_decide, o.holds_converse]

/-- **Numbers are compared by their exact values.** -/
theorem line_magnitude : Line magnitude? where
  ordered := by
    intro a b x y ha hb o
    obtain ⟨-, p, hp, rfl⟩ := point_of_magnitude ha
    obtain ⟨-, q, hq, rfl⟩ := point_of_magnitude hb
    rw [ordered_of_points hp hq]
    congr 1
    apply o.decide_eq
    · simp [Binary64.Point.value_inj]
    · exact Binary64.Point.lt_iff_value
  equal := by
    intro a b x y ha hb
    obtain ⟨na, p, hp, rfl⟩ := point_of_magnitude ha
    obtain ⟨nb, q, hq, rfl⟩ := point_of_magnitude hb
    simp [strictlySame, na, nb, samePoint, hp, hq, Binary64.Point.value_inj]

/-- **Texts are compared by their code points.** -/
theorem line_codePoints : Line codePoints? where
  ordered := by
    intro a b x y ha hb o
    cases a <;> cases ha
    cases b <;> cases hb
    rw [ordered?, lexicographic_eq (fun _ _ => Char.toNat_inj.1) fun c d => ?_]
    rw [decide_eq_true_iff]
    exact Iff.rfl
  equal := by
    intro a b x y ha hb
    cases a <;> cases ha
    cases b <;> cases hb
    rename_i s t
    have apart : Function.Injective (List.map Char.toNat) :=
      List.map_injective_iff.2 fun _ _ => Char.toNat_inj.1
    simp [strictlySame, isNumber, kind, same, apart.eq_iff, String.toList_inj]

/-! ## The converse of a comparison -/

/-- **A value as a host can hold it**: no object in it, however deep, repeats a key. -/
inductive Keyed : Value → Prop where
  | leaf {v : Value} (noItems : v.items? = none) (noObject : ∀ fs, v ≠ .object fs) : Keyed v
  | list {xs : List Value} (each : ∀ x ∈ xs, Keyed x) : Keyed (.list xs)
  | tuple {xs : List Value} (each : ∀ x ∈ xs, Keyed x) : Keyed (.tuple xs)
  | object {fs : Table Value} (once : fs.keys.Nodup) (each : ∀ f ∈ fs, Keyed f.2) :
      Keyed (.object fs)

theorem samePoint_comm (v w : Value) : samePoint v w = samePoint w v := by
  unfold samePoint
  cases v.point? <;> cases w.point? <;> simp [eq_comm]

/-- Values of two kinds are the same only as places on the number line. -/
theorem same_of_ne_kind {v w : Value} (other : v.kind ≠ w.kind) : same v w = samePoint v w := by
  unfold same
  split
  case h_9 => rfl
  all_goals simp_all [kind, samePoint, point?]

theorem same_comm_of_ne_kind {v w : Value} (other : v.kind ≠ w.kind) : same v w = same w v := by
  rw [same_of_ne_kind other, same_of_ne_kind (Ne.symm other), samePoint_comm]

/-- A value without parts is compared from either side alike. -/
theorem same_comm_of_leaf {v : Value} (noItems : v.items? = none) (noObject : ∀ fs, v ≠ .object fs)
    (w : Value) : same v w = same w v := by
  by_cases one : v.kind = w.kind
  · cases v with
    | list _ | tuple _ => cases noItems
    | object fs => exact absurd rfl (noObject fs)
    | null | text _ | octets _ | date _ _ | pattern _ =>
      cases w <;> cases one
      simp [same, eq_comm]
    | bool _ | int _ | float _ | foreign _ _ =>
      cases w <;> cases one
      simp [same, samePoint_comm]
  · exact same_comm_of_ne_kind one

theorem sameItems_comm {xs ys : List Value} (each : ∀ x ∈ xs, ∀ y ∈ ys, same x y = same y x) :
    sameItems xs ys = sameItems ys xs := by
  induction xs generalizing ys with
  | nil => cases ys <;> rfl
  | cons x xs ih =>
    cases ys with
    | nil => rfl
    | cons y ys =>
      rw [sameItems, sameItems, each x List.mem_cons_self y List.mem_cons_self]
      rw [ih fun x mem y mem' => each x (List.mem_cons_of_mem _ mem) y (List.mem_cons_of_mem _ mem')]

/-- Seen from the keys of either object, the same pairs of values are compared. -/
theorem sameObject_comm {fs gs : Table Value} (once : fs.keys.Nodup) (once' : gs.keys.Nodup)
    (each : ∀ f ∈ fs, ∀ g ∈ gs, same f.2 g.2 = same g.2 f.2) :
    same (.object fs) (.object gs) = same (.object gs) (.object fs) := by
  have left := same_object_iff (R := fun v w => same w v = true) once once' fun f mem w found => by
    rw [each f mem _ (Table.mem_of_get? found)]
  have right := same_object_iff (R := fun w v => same w v = true) once' once fun _ _ _ _ => Iff.rfl
  rw [Bool.eq_iff_iff, left, right]
  constructor
  · rintro ⟨keys, values⟩
    exact ⟨fun key => (keys key).symm, fun key w v here there => values key v w there here⟩
  · rintro ⟨keys, values⟩
    exact ⟨fun key => (keys key).symm, fun key v w here there => values key w v there here⟩

/-- **Loose equality is symmetric.** -/
theorem same_comm {v w : Value} (hv : v.Keyed) (hw : w.Keyed) : same v w = same w v := by
  -- By the parts of the first value. Only where the second has parts of its kind are they compared.
  induction hv generalizing w with
  | leaf noItems noObject => exact same_comm_of_leaf noItems noObject w
  | list each ih =>
    cases hw with
    | leaf noItems noObject => exact (same_comm_of_leaf noItems noObject _).symm
    | list each' =>
      rw [same, same]
      exact sameItems_comm fun x mem y mem' => ih x mem (each' y mem')
    | _ => exact same_comm_of_ne_kind (by simp [kind])
  | tuple each ih =>
    cases hw with
    | leaf noItems noObject => exact (same_comm_of_leaf noItems noObject _).symm
    | tuple each' =>
      rw [same, same]
      exact sameItems_comm fun x mem y mem' => ih x mem (each' y mem')
    | _ => exact same_comm_of_ne_kind (by simp [kind])
  | object once each ih =>
    cases hw with
    | leaf noItems noObject => exact (same_comm_of_leaf noItems noObject _).symm
    | object once' each' => exact sameObject_comm once once' fun f mem g mem' => ih f mem (each' g mem')
    | _ => exact same_comm_of_ne_kind (by simp [kind])

/-- The order of two things on a line, exchanged. -/
theorem Order.decide_converse {α : Type} [LinearOrder α] (o : Order) {x y : α}
    {same less same' less' : Bool} (hs : same = true ↔ x = y) (hl : less = true ↔ x < y)
    (hs' : same' = true ↔ y = x) (hl' : less' = true ↔ y < x) :
    o.decide same less = o.converse.decide same' less' := by
  rw [o.decide_eq hs hl, o.converse.decide_eq hs' hl', decide_eq_decide, o.holds_converse]

/-- Where an order says something of two operands: they are numbers or booleans, or of one kind that has
an order. -/
inductive Matched : Value → Value → Prop where
  | numbers {v w : Value} (left : v.kind ∈ [Kind.bool, .int, .float])
      (right : w.kind ∈ [Kind.bool, .int, .float]) : Matched v w
  | texts (s t : String) : Matched (.text s) (.text t)
  | octets (as bs : List UInt8) : Matched (.octets as) (.octets bs)
  | lists (xs ys : List Value) : Matched (.list xs) (.list ys)
  | tuples (xs ys : List Value) : Matched (.tuple xs) (.tuple ys)

theorem Matched.of_ordered {o : Order} {v w : Value} (h : (ordered? o v w).isSome = true) :
    Matched v w := by
  rcases ordered_inv h with ⟨left, right⟩ | ⟨s, t, rfl, rfl⟩ | ⟨as, bs, rfl, rfl⟩ |
    ⟨xs, ys, rfl, rfl, -⟩ | ⟨xs, ys, rfl, rfl, -⟩
  · exact .numbers left right
  · exact .texts s t
  · exact .octets as bs
  · exact .lists xs ys
  · exact .tuples xs ys

theorem Matched.symm {v w : Value} (h : Matched v w) : Matched w v := by
  cases h with
  | numbers left right => exact .numbers right left
  | texts s t => exact .texts t s
  | octets as bs => exact .octets bs as
  | lists xs ys => exact .lists ys xs
  | tuples xs ys => exact .tuples ys xs

theorem ordered_of_not_matched {v w : Value} (h : ¬ Matched v w) (o : Order) :
    ordered? o v w = none := by
  rw [← Option.not_isSome_iff_eq_none]
  exact fun some => h (Matched.of_ordered some)

/-- Nothing is ordered against what is no number. -/
theorem ordered_of_no_point {v w : Value} (hv : v.kind ∈ [Kind.bool, .int, .float])
    (hw : w.kind ∈ [Kind.bool, .int, .float]) (none : v.point? = none ∨ w.point? = none) (o : Order) :
    ordered? o v w = some false := by
  cases v <;> simp [kind] at hv
  all_goals
    cases w <;> simp [kind] at hw
    all_goals
      simp only [ordered?, kind]
      split
      · simp_all
      · rfl

theorem orderedItems_converse {xs ys : List Value}
    (equal : ∀ x ∈ xs, ∀ y ∈ ys, same x y = same y x) {o : Order}
    (each : ∀ x ∈ xs, ∀ y ∈ ys, ordered? o x y = ordered? o.converse y x) :
    orderedItems? o xs ys = orderedItems? o.converse ys xs := by
  induction xs generalizing ys with
  | nil =>
    cases ys with
    | nil => cases o <;> rfl
    | cons y ys => cases o <;> rfl
  | cons x xs ih =>
    cases ys with
    | nil => cases o <;> rfl
    | cons y ys =>
      have first := each x List.mem_cons_self y List.mem_cons_self
      have others := @ih ys
        (fun x mem y mem' => equal x (List.mem_cons_of_mem _ mem) y (List.mem_cons_of_mem _ mem'))
        fun x mem y mem' => each x (List.mem_cons_of_mem _ mem) y (List.mem_cons_of_mem _ mem')
      rw [orderedItems?, orderedItems?, equal x List.mem_cons_self y List.mem_cons_self, first, others]

theorem ordered_converse_numbers {v w : Value} (hv : v.kind ∈ [Kind.bool, .int, .float])
    (hw : w.kind ∈ [Kind.bool, .int, .float]) (o : Order) :
    ordered? o v w = ordered? o.converse w v := by
  cases hp : v.point? with
  | none => rw [ordered_of_no_point hv hw (.inl hp), ordered_of_no_point hw hv (.inr hp)]
  | some p =>
    cases hq : w.point? with
    | none => rw [ordered_of_no_point hv hw (.inr hq), ordered_of_no_point hw hv (.inl hq)]
    | some q =>
      have same (p q : Binary64.Point) : decide (p = q) = true ↔ p.value = q.value := by
        rw [decide_eq_true_iff, Binary64.Point.value_inj]
      rw [ordered_of_points hp hq, ordered_of_points hq hp, o.decide_converse (same p q)
        Binary64.Point.lt_iff_value (same q p) Binary64.Point.lt_iff_value]

theorem ordered_converse_octets (as bs : List UInt8) (o : Order) :
    ordered? o (.octets as) (.octets bs) = ordered? o.converse (.octets bs) (.octets as) := by
  have apart : Function.Injective UInt8.toNat := fun _ _ => UInt8.toNat_inj.1
  have less (a b : UInt8) : decide (a < b) = true ↔ a.toNat < b.toNat := by
    rw [decide_eq_true_iff, UInt8.lt_iff_toNat_lt]
  rw [ordered?, ordered?, lexicographic_eq apart less, lexicographic_eq apart less, Option.some.injEq,
    decide_eq_decide, o.holds_converse]

theorem ordered_converse_of_not_matched {v w : Value} (apart : ¬ Matched v w) (o : Order) :
    ordered? o v w = ordered? o.converse w v := by
  rw [ordered_of_not_matched apart, ordered_of_not_matched fun matched => apart matched.symm]

/-- **An order and its converse** say the same of two values in either order. -/
theorem ordered_converse {v w : Value} (hv : v.Keyed) (hw : w.Keyed) (o : Order) :
    ordered? o v w = ordered? o.converse w v := by
  -- By the parts of the first value. Of values with parts, only two lists or two tuples have an order.
  induction hv generalizing w with
  | @leaf v noItems _ =>
    by_cases matched : Matched v w
    · cases matched with
      | numbers left right => exact ordered_converse_numbers left right o
      | texts s t => exact line_codePoints.converse rfl rfl o
      | octets as bs => exact ordered_converse_octets as bs o
      | lists _ _ | tuples _ _ => cases noItems
    · exact ordered_converse_of_not_matched matched o
  | @list xs each ih =>
    by_cases matched : Matched (.list xs) w
    · cases matched with
      | numbers left _ => simp [kind] at left
      | lists _ ys =>
        cases hw with
        | leaf noItems _ => cases noItems
        | list each' =>
          rw [ordered?, ordered?]
          exact orderedItems_converse (fun x mem y mem' => same_comm (each x mem) (each' y mem'))
            fun x mem y mem' => ih x mem (each' y mem')
    · exact ordered_converse_of_not_matched matched o
  | @tuple xs each ih =>
    by_cases matched : Matched (.tuple xs) w
    · cases matched with
      | numbers left _ => simp [kind] at left
      | tuples _ ys =>
        cases hw with
        | leaf noItems _ => cases noItems
        | tuple each' =>
          rw [ordered?, ordered?]
          exact orderedItems_converse (fun x mem y mem' => same_comm (each x mem) (each' y mem'))
            fun x mem y mem' => ih x mem (each' y mem')
    · exact ordered_converse_of_not_matched matched o
  | object _ _ _ =>
    apply ordered_converse_of_not_matched
    intro matched
    cases matched with
    | numbers left _ => simp [kind] at left

/-- **Strict equality is symmetric.** -/
theorem strictlySame_comm {v w : Value} (hv : v.Keyed) (hw : w.Keyed) :
    strictlySame v w = strictlySame w v := by
  have numbers : (v.isNumber && w.isNumber) = (w.isNumber && v.isNumber) := Bool.and_comm ..
  have kinds : decide (v.kind = w.kind) = decide (w.kind = v.kind) := decide_eq_decide.2 eq_comm
  rw [strictlySame, strictlySame, numbers, samePoint_comm, kinds, same_comm hv hw]

end Value

namespace Condition

open Value

/-! ## Coherence -/

/-- **Each comparison says what its converse says** of the same operands exchanged, and `nql` the contrary
of `eql`. -/
structure Mirrored (a b : Value) : Prop where
  lt : compare .lt a b = compare .gt b a
  lte : compare .lte a b = compare .gte b a
  nql : compare .nql a b = (compare .eql a b).map (!·)
  eql : compare .eql a b = compare .eql b a

/-- **Exactly one** of `lt`, `eql` and `gt` holds, and the other three comparisons are their contraries. -/
structure Trichotomous (a b : Value) : Prop where
  one : ∃! o, o ∈ [Operator.lt, .eql, .gt] ∧ compare o a b = .ok true
  lte : compare .lte a b = (compare .gt a b).map (!·)
  gte : compare .gte a b = (compare .lt a b).map (!·)
  nql : compare .nql a b = (compare .eql a b).map (!·)

/-- **`lt` is passed on**, through `lt` itself and, on both sides, through `eql`. -/
structure PassedOn (a b c : Value) : Prop where
  lt : compare .lt a b = .ok true → compare .lt b c = .ok true → compare .lt a c = .ok true
  left : compare .eql a b = .ok true → compare .lt a c = compare .lt b c
  right : compare .eql b c = .ok true → compare .lt a b = compare .lt a c

/-- **Operands that lie on one line**: two numbers that are numbers, or two texts. -/
inductive Aligned : Value → Value → Prop where
  | numbers {a b : Value} (left : a.isNumber = true) (right : b.isNumber = true)
      (proper : a ≠ .float .nan) (proper' : b ≠ .float .nan) : Aligned a b
  | texts (s t : String) : Aligned (.text s) (.text t)

section

variable {α : Type} [LinearOrder α] {place? : Value → Option α} {a b c : Value} {x y z : α}

/-- On a line, an operator asks for the order of its places. -/
theorem compare_on_line (line : Line place?) (ha : place? a = some x) (hb : place? b = some y) :
    compare .lt a b = .ok (decide (x < y)) ∧ compare .gt a b = .ok (decide (y < x)) ∧
    compare .lte a b = .ok (decide (x ≤ y)) ∧ compare .gte a b = .ok (decide (y ≤ x)) ∧
    compare .eql a b = .ok (decide (x = y)) ∧ compare .nql a b = .ok (!decide (x = y)) := by
  have same : strictlySame a b = decide (x = y) := by
    rw [Bool.eq_iff_iff, line.equal ha hb, decide_eq_true_iff]
  simp only [compare, line.ordered ha hb, same, Option.getD_some]
  exact ⟨rfl, rfl, rfl, rfl, trivial, trivial⟩

theorem trichotomous_on_line (line : Line place?) (ha : place? a = some x) (hb : place? b = some y) :
    Trichotomous a b := by
  obtain ⟨lt, gt, lte, gte, eql, nql⟩ := compare_on_line line ha hb
  have one {o : Operator} (only : ∀ o', o' ∈ [Operator.lt, .eql, .gt] →
      (compare o' a b = .ok true ↔ o' = o)) (mem : o ∈ [Operator.lt, .eql, .gt]) :
      ∃! o, o ∈ [Operator.lt, .eql, .gt] ∧ compare o a b = .ok true :=
    ⟨o, ⟨mem, (only o mem).2 rfl⟩, fun o' h => (only o' h.1).1 h.2⟩
  refine ⟨?_, ?_, ?_, ?_⟩
  · rcases lt_trichotomy x y with less | same | more
    · exact @one .lt (by simp [lt, eql, gt, less, less.ne, less.le]) (by simp)
    · exact @one .eql (by simp [lt, eql, gt, same]) (by simp)
    · exact @one .gt (by simp [lt, eql, gt, more, more.ne', more.le]) (by simp)
  · simp [lte, gt, Except.map, ← not_lt]
  · simp [gte, lt, Except.map, ← not_lt]
  · simp [nql, eql, Except.map]

theorem passedOn_on_line (line : Line place?) (ha : place? a = some x) (hb : place? b = some y)
    (hc : place? c = some z) : PassedOn a b c := by
  obtain ⟨ltAB, -, -, -, eqlAB, -⟩ := compare_on_line line ha hb
  obtain ⟨ltBC, -, -, -, eqlBC, -⟩ := compare_on_line line hb hc
  obtain ⟨ltAC, -, -, -, -, -⟩ := compare_on_line line ha hc
  refine ⟨?_, ?_, ?_⟩
  · intro ab bc
    rw [ltAB, Except.ok.injEq, decide_eq_true_iff] at ab
    rw [ltBC, Except.ok.injEq, decide_eq_true_iff] at bc
    rw [ltAC, Except.ok.injEq, decide_eq_true_iff]
    exact ab.trans bc
  · intro same
    rw [eqlAB, Except.ok.injEq, decide_eq_true_iff] at same
    rw [ltAC, ltBC, same]
  · intro same
    rw [eqlBC, Except.ok.injEq, decide_eq_true_iff] at same
    rw [ltAB, ltAC, same]

end

/-- Operands that lie on one line, by the line that they lie on. -/
theorem Aligned.exists_line {a b : Value} (h : Aligned a b) :
    (∃ x y, a.magnitude? = some x ∧ b.magnitude? = some y) ∨
      ∃ x y, a.codePoints? = some x ∧ b.codePoints? = some y := by
  cases h with
  | numbers left right proper proper' =>
    obtain ⟨x, hx⟩ := Option.isSome_iff_exists.1 ((isSome_magnitude? a).2 ⟨left, proper⟩)
    obtain ⟨y, hy⟩ := Option.isSome_iff_exists.1 ((isSome_magnitude? b).2 ⟨right, proper'⟩)
    exact .inl ⟨x, y, hx, hy⟩
  | texts s t => exact .inr ⟨_, _, rfl, rfl⟩

theorem Aligned.trichotomous {a b : Value} (h : Aligned a b) : Trichotomous a b := by
  rcases h.exists_line with ⟨x, y, hx, hy⟩ | ⟨x, y, hx, hy⟩
  · exact trichotomous_on_line line_magnitude hx hy
  · exact trichotomous_on_line line_codePoints hx hy

theorem Aligned.passedOn {a b c : Value} (h : Aligned a b) (h' : Aligned b c) : PassedOn a b c := by
  rcases h.exists_line with ⟨x, y, hx, hy⟩ | ⟨x, y, hx, hy⟩
  · rcases h'.exists_line with ⟨-, z, -, hz⟩ | ⟨y', -, hy', -⟩
    · exact passedOn_on_line line_magnitude hx hy hz
    · cases b <;> cases hy'
      cases hy
  · rcases h'.exists_line with ⟨y', -, hy', -⟩ | ⟨-, z, -, hz⟩
    · cases b <;> cases hy
      cases hy'
    · exact passedOn_on_line line_codePoints hx hy hz

theorem mirrored {a b : Value} (ha : a.Keyed) (hb : b.Keyed) : Mirrored a b where
  lt := by simp only [compare, ordered_converse ha hb .less, Order.converse]
  lte := by simp only [compare, ordered_converse ha hb .lessOrSame, Order.converse]
  nql := rfl
  eql := by simp only [compare, strictlySame_comm ha hb]

/-- **The comparisons of conditions are coherent.** Of any operands that a host can hold, a comparison and
its converse say the same, `eql` is symmetric, and `nql` is its contrary. Of two numbers that are numbers,
or of two texts, exactly one of `lt`, `eql` and `gt` holds, the other comparisons are the contraries of
these, and `lt` is transitive and passes through operands that are equal. What counts for numbers is their
exact value, never a rounded one, and for texts their code points. -/
theorem coherent {a b : Value} (ha : a.Keyed) (hb : b.Keyed) :
    Mirrored a b ∧
    (Aligned a b → Trichotomous a b ∧ ∀ c, Aligned b c → PassedOn a b c) ∧
    (∀ x y, a.magnitude? = some x → b.magnitude? = some y →
      (compare .lt a b = .ok true ↔ x < y) ∧ (compare .eql a b = .ok true ↔ x = y)) ∧
    (∀ x y, a.codePoints? = some x → b.codePoints? = some y →
      (compare .lt a b = .ok true ↔ x < y) ∧ (compare .eql a b = .ok true ↔ x = y)) := by
  refine ⟨mirrored ha hb, ?_, ?_, ?_⟩
  · intro aligned
    exact ⟨aligned.trichotomous, fun c => aligned.passedOn⟩
  · intro x y hx hy
    obtain ⟨lt, -, -, -, eql, -⟩ := compare_on_line line_magnitude hx hy
    simp [lt, eql]
  · intro x y hx hy
    obtain ⟨lt, -, -, -, eql, -⟩ := compare_on_line line_codePoints hx hy
    simp [lt, eql]

/-- The least whole number without a floating-point form, the floating-point number before it, and
infinity; and two lists of which one holds what is no number. -/
theorem coherent_beyond_precision :
    let before : Value := .float (.finite false (2 ^ 53 * Binary64.one))
    let next : Value := .int (2 ^ 53 + 1)
    let odd : Value := .list [.int 1, .float .nan]
    let even : Value := .list [.bool true, .object [("k", .null)]]
    compare .lt before next = .ok true ∧ Trichotomous before next ∧
      PassedOn before next (.float (.infinite false)) ∧ Mirrored before next ∧ Mirrored odd even := by
  intro before next odd even
  have leaf (x : Binary64) : (Value.float x).Keyed := .leaf rfl nofun
  have whole (n : Int) : (Value.int n).Keyed := .leaf rfl nofun
  have keyedOdd : odd.Keyed := .list (by simp [leaf, whole])
  have keyedEven : even.Keyed := by
    have null : Value.null.Keyed := .leaf rfl nofun
    have truth : (Value.bool true).Keyed := .leaf rfl nofun
    have inner : (Value.object [("k", .null)]).Keyed := .object (by decide) (by simp [null])
    exact .list (by simp [truth, inner])
  obtain ⟨mirrored, aligned, exactly, -⟩ := @coherent before next (leaf _) (whole _)
  obtain ⟨trichotomous, passedOn⟩ := aligned (.numbers rfl rfl (by simp [before]) (by simp [next]))
  have hx : before.magnitude? = some ((((2 : ℚ) ^ 53 : ℚ) : WithTop ℚ) : WithBot (WithTop ℚ)) := by
    have value : ((2 ^ 53 * Binary64.one : Nat) : ℚ) / Binary64.one = 2 ^ 53 := by
      rw [Nat.cast_mul, mul_div_cancel_right₀ _ Binary64.cast_one_ne_zero, Nat.cast_pow, Nat.cast_ofNat]
    rw [← value]
    rfl
  have hy : next.magnitude? = some ((((2 : ℚ) ^ 53 + 1 : ℚ) : WithTop ℚ) : WithBot (WithTop ℚ)) := by
    have value : ((2 ^ 53 + 1 : Int) : ℚ) = 2 ^ 53 + 1 := by
      rw [Int.cast_add, Int.cast_pow, Int.cast_ofNat, Int.cast_one]
    rw [← value]
    rfl
  have less : ((((2 : ℚ) ^ 53 : ℚ) : WithTop ℚ) : WithBot (WithTop ℚ)) <
      (((2 : ℚ) ^ 53 + 1 : ℚ) : WithTop ℚ) :=
    WithBot.coe_lt_coe.2 (WithTop.coe_lt_coe.2 (lt_add_one _))
  exact ⟨(exactly _ _ hx hy).1.2 less, trichotomous,
    passedOn _ (.numbers rfl rfl (by simp [next]) (by simp)), mirrored, (coherent keyedOdd keyedEven).1⟩

end Condition

end CallTree
