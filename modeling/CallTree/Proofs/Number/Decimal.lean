/-
# CallTree.Proofs.Number.Decimal — digits that read back as a number.

A whole number is written exactly if it has not too many digits (`whole_eq_ok_iff`). All that is said of
what can be written, in a document or in a message, comes down to this.

What digits are read as depends on their value alone: zeros at their end can be counted by the exponent
(`ofDecimal_zeros`). Digits that are near to a number read back as it, also those for which the power of ten
is never computed (`ofDecimal_of_near`). The nearest seventeen digits to a number are near enough, whatever
the number (`near_seventeen`), so that there always are digits that read back (`readsBack?_seventeen`).
-/
import Mathlib.Data.Nat.Digits.Defs
import CallTree.Number.Decimal
import CallTree.Proofs.Limit
import CallTree.Proofs.Number.Rounding

namespace CallTree

namespace Binary64

/-! ## Digits -/

/-- A number has as many digits as it needs. -/
theorem decimalSize_le_iff {n k : Nat} (some_ : 0 < k) : decimalSize n ≤ k ↔ n < 10 ^ k :=
  Nat.length_toDigits_le_iff (by decide) some_

theorem decimalSize_pos (n : Nat) : 0 < decimalSize n := Nat.length_toDigits_pos

theorem lt_pow_decimalSize (n : Nat) : n < 10 ^ decimalSize n :=
  (decimalSize_le_iff (decimalSize_pos n)).1 (Nat.le_refl _)

theorem pow_decimalSize_le {n : Nat} (some_ : n ≠ 0) : 10 ^ (decimalSize n - 1) ≤ n := by
  by_contra less
  rw [Nat.not_le] at less
  have positive : 0 < decimalSize n - 1 := by
    rw [Nat.pos_iff_ne_zero]
    intro single
    rw [single] at less
    omega
  have := (decimalSize_le_iff positive).2 less
  omega

/-- Zeros at the end of a number are digits. -/
theorem decimalSize_mul_pow {n : Nat} (some_ : n ≠ 0) (zeros : Nat) :
    decimalSize (n * 10 ^ zeros) = decimalSize n + zeros := by
  have positive := decimalSize_pos n
  have size : 0 < decimalSize n + zeros := by omega
  apply Nat.le_antisymm
  · rw [decimalSize_le_iff size, Nat.pow_add]
    exact Nat.mul_lt_mul_of_pos_right (lt_pow_decimalSize n) (Nat.pow_pos (by decide))
  · by_contra less
    rw [Nat.not_le] at less
    have short := lt_pow_decimalSize (n * 10 ^ zeros)
    have long : 10 ^ (decimalSize n - 1 + zeros) ≤ n * 10 ^ zeros := by
      rw [Nat.pow_add]
      exact Nat.mul_le_mul_right _ (pow_decimalSize_le some_)
    have power := (Nat.pow_lt_pow_iff_right (by decide : 1 < 10)).1 (Nat.lt_of_le_of_lt long short)
    omega

/-! ## Digits as a number -/

theorem ofDecimal_zero (negative : Bool) (e : Int) : ofDecimal negative 0 e = .finite negative 0 := rfl

/-- Where the power of ten is computed, digits are read as a fraction. -/
theorem ofDecimal_eq_ofRatio (negative : Bool) {n : Nat} {e : Int} (some_ : n ≠ 0)
    (low : -324 < (decimalSize n : Int) + e) (high : (decimalSize n : Int) + e < 310) :
    ofDecimal negative n e = ofRatio negative (n * 10 ^ e.toNat) (10 ^ (-e).toNat) := by
  unfold ofDecimal
  dsimp only
  rw [if_neg some_, if_neg (Int.not_le.2 high), if_neg (Int.not_le.2 low)]
  split
  · rename_i whole
    have none_ : (-e).toNat = 0 := by omega
    rw [none_]
    rfl
  · rename_i fraction
    have none_ : e.toNat = 0 := by omega
    rw [none_, Nat.pow_zero, Nat.mul_one]
    rfl

/-- **Zeros at the end of digits** are read as the exponent would be that counts them. -/
theorem ofDecimal_zeros (negative : Bool) (n zeros : Nat) (e : Int) :
    ofDecimal negative (n * 10 ^ zeros) e = ofDecimal negative n (e + zeros) := by
  by_cases none_ : n = 0
  · subst none_
    rw [Nat.zero_mul, ofDecimal_zero, ofDecimal_zero]
  have some_ : n * 10 ^ zeros ≠ 0 := Nat.mul_ne_zero none_ (Nat.ne_of_gt (Nat.pow_pos (by decide)))
  have size : (decimalSize (n * 10 ^ zeros) : Int) + e = decimalSize n + (e + zeros) := by
    rw [decimalSize_mul_pow none_]
    omega
  by_cases range : -324 < (decimalSize n : Int) + (e + zeros) ∧ (decimalSize n : Int) + (e + zeros) < 310
  · rw [ofDecimal_eq_ofRatio negative some_ (by omega) (by omega),
      ofDecimal_eq_ofRatio negative none_ range.1 range.2]
    -- The power of ten by which both parts of one fraction are larger than those of the other one.
    obtain ⟨k, common⟩ : ∃ k, (-e).toNat = k + (-(e + zeros)).toNat := by
      obtain ⟨k, same⟩ := Nat.exists_eq_add_of_le' (show (-(e + zeros)).toNat ≤ (-e).toNat by omega)
      exact ⟨k, same⟩
    have numerator : n * 10 ^ zeros * 10 ^ e.toNat = 10 ^ k * (n * 10 ^ (e + zeros).toNat) := by
      rw [Nat.mul_left_comm, Nat.mul_assoc, ← Nat.pow_add, ← Nat.pow_add]
      congr 2
      omega
    rw [numerator, common, Nat.pow_add, ofRatio_mul negative (Nat.pow_pos (by decide))]
  · unfold ofDecimal
    dsimp only
    rw [if_neg some_, if_neg none_, size]
    split
    · rfl
    · split
      · rfl
      · omega

/-- The sign of digits is the sign of the number. -/
theorem ofDecimal_sign {n : Nat} {e : Int} {units : Nat} (read : ofDecimal false n e = .finite false units)
    (negative : Bool) : ofDecimal negative n e = .finite negative units := by
  have signed {num den : Nat} (same : ofRatio false num den = .finite false units) :
      ofRatio negative num den = .finite negative units := by
    unfold ofRatio at same ⊢
    dsimp only at same ⊢
    split at same
    · rename_i below
      rw [if_pos below]
      cases same
      rfl
    · cases same
  unfold ofDecimal at read ⊢
  dsimp only at read ⊢
  by_cases none_ : n = 0
  · rw [if_pos none_] at read ⊢
    cases read
    rfl
  rw [if_neg none_] at read ⊢
  by_cases high : 310 ≤ (decimalSize n : Int) + e
  · rw [if_pos high] at read
    cases read
  rw [if_neg high] at read ⊢
  by_cases low : (decimalSize n : Int) + e ≤ -324
  · rw [if_pos low] at read ⊢
    cases read
    rfl
  rw [if_neg low] at read ⊢
  by_cases whole : 0 ≤ e
  · rw [if_pos whole] at read ⊢
    exact signed read
  · rw [if_neg whole] at read ⊢
    exact signed read

/-- A fraction that is near to a number of units is below twice the limit, and not much below one unit. -/
theorem Near.range {num den units : Nat} (near : Near num den units) (below : units < limit)
    (some_ : units ≠ 0) : num < 2 * limit * den ∧ (2 * 10 ^ 16 - 1) * den ≤ 2 * 10 ^ 16 * num := by
  obtain ⟨positive, low, high⟩ := near
  have most : (units + 1) * den ≤ limit * den := Nat.mul_le_mul_right den below
  have least : 1 * den ≤ units * den := Nat.mul_le_mul_right den (Nat.pos_of_ne_zero some_)
  rw [Nat.add_mul] at most
  rw [Nat.mul_assoc 2 limit]
  generalize units * den = u at *
  generalize limit * den = l at *
  omega

/-- Beyond the range there is no number. -/
theorem limits : 2 * limit ≤ 10 ^ 309 * one ∧
    ∃ z, z = 324 ∧ 2 * 10 ^ 16 * one < (2 * 10 ^ 16 - 1) * 10 ^ z :=
  ⟨by decide +kernel, _, rfl, by decide +kernel⟩

/-- **Digits that are near to a number** are in the range that is looked at when they are read. -/
theorem size_of_near {n units : Nat} {e : Int} (representable : Representable units) (some_ : units ≠ 0)
    (near : Near (n * 10 ^ e.toNat * one) (10 ^ (-e).toNat) units) (digits : n ≠ 0) :
    -324 < (decimalSize n : Int) + e ∧ (decimalSize n : Int) + e < 310 := by
  obtain ⟨below, above⟩ := near.range representable.1 some_
  have positive := near.positive
  obtain ⟨most, z, zeros, least⟩ := limits
  constructor
  · by_contra small
    have powers : decimalSize n + e.toNat + z ≤ (-e).toNat := by omega
    have beyond : n * 10 ^ e.toNat * 10 ^ z ≤ 10 ^ (-e).toNat := by
      refine Nat.le_trans ?_ (Nat.pow_le_pow_right (by decide) powers)
      rw [Nat.pow_add, Nat.pow_add]
      exact Nat.mul_le_mul_right _ (Nat.mul_le_mul_right _ (Nat.le_of_lt (lt_pow_decimalSize n)))
    generalize 10 ^ (-e).toNat = den at above positive beyond
    generalize n * 10 ^ e.toNat = num at above beyond
    generalize 10 ^ z = t at least beyond
    -- The fraction would be less than the part of a unit that it has to have.
    have : (2 * 10 ^ 16 - 1) * den * t < (2 * 10 ^ 16 - 1) * den * t :=
      calc (2 * 10 ^ 16 - 1) * den * t ≤ 2 * 10 ^ 16 * (num * one) * t := Nat.mul_le_mul_right t above
        _ = 2 * 10 ^ 16 * one * (num * t) := by
          rw [Nat.mul_comm num one, ← Nat.mul_assoc, Nat.mul_assoc _ num t]
        _ ≤ 2 * 10 ^ 16 * one * den := Nat.mul_le_mul_left _ beyond
        _ < (2 * 10 ^ 16 - 1) * t * den := Nat.mul_lt_mul_of_pos_right least positive
        _ = (2 * 10 ^ 16 - 1) * den * t := Nat.mul_right_comm _ _ _
    exact Nat.lt_irrefl _ this
  · by_contra large
    have size := decimalSize_pos n
    have powers : 309 + (-e).toNat ≤ decimalSize n - 1 + e.toNat := by omega
    have beyond : 10 ^ 309 * 10 ^ (-e).toNat ≤ n * 10 ^ e.toNat := by
      rw [← Nat.pow_add]
      refine Nat.le_trans (Nat.pow_le_pow_right (by decide) powers) ?_
      rw [Nat.pow_add]
      exact Nat.mul_le_mul_right _ (pow_decimalSize_le digits)
    refine Nat.not_lt.2 ?_ below
    calc 2 * limit * 10 ^ (-e).toNat ≤ 10 ^ 309 * one * 10 ^ (-e).toNat := Nat.mul_le_mul_right _ most
      _ = 10 ^ 309 * 10 ^ (-e).toNat * one := Nat.mul_right_comm _ _ _
      _ ≤ n * 10 ^ e.toNat * one := Nat.mul_le_mul_right one beyond

/-- **Digits that are near to a number read back as it.** -/
theorem ofDecimal_of_near {n units : Nat} {e : Int} (representable : Representable units) (some_ : units ≠ 0)
    (near : Near (n * 10 ^ e.toNat * one) (10 ^ (-e).toNat) units) (negative : Bool) :
    ofDecimal negative n e = .finite negative units := by
  have digits : n ≠ 0 := by
    rintro rfl
    have least := (near.range representable.1 some_).2
    have positive := near.positive
    rw [Nat.zero_mul, Nat.zero_mul] at least
    omega
  obtain ⟨low, high⟩ := size_of_near representable some_ near digits
  rw [ofDecimal_eq_ofRatio negative digits low high]
  exact ofRatio_of_near negative representable near

end Binary64

namespace Decimal

/-! ## Whole numbers -/

/-- **A whole number is written** exactly if it has not too many digits. -/
theorem whole_eq_ok_iff {n : Int} {s : String} : whole n = .ok s ↔ Short n ∧ s = toString n := by
  unfold whole
  split <;> simp_all [eq_comm]

theorem whole_of_short {n : Int} (short : Short n) : whole n = .ok (toString n) :=
  whole_eq_ok_iff.2 ⟨short, rfl⟩

/-- Else there is one fault. -/
theorem whole_of_long {n : Int} (long : ¬ Short n) : whole n = .error .tooManyDigits := if_neg long

/-- The digits of a number tell whether it is short: it is smaller than a power of ten. -/
theorem short_iff {n : Int} : Short n ↔ n.natAbs < 10 ^ digitLimit :=
  Binary64.decimalSize_le_iff (by decide)

/-! ## Floating-point numbers -/

open Binary64 (Near Representable decimalSize decimalSize_pos pow_decimalSize_le roundQuotient one one_positive)

/-- The number on a decimal grid, with both powers of ten. -/
theorem onGrid_eq (units : Nat) (power : Int) :
    onGrid units power = (units * 10 ^ (-power).toNat, one * 10 ^ power.toNat) := by
  unfold onGrid
  split
  · have none_ : (-power).toNat = 0 := by omega
    rw [none_, Nat.pow_zero, Nat.mul_one]
    rfl
  · have none_ : power.toNat = 0 := by omega
    rw [none_, Nat.pow_zero, Nat.mul_one]
    rfl

/-- **A number is not below the power of ten** that its place says, in units of a grid sixteen places finer. -/
theorem place_le {units : Nat} (some_ : units ≠ 0) {power : Int} (place : placeOf units = power + 17) :
    10 ^ 16 * (one * 10 ^ power.toNat) ≤ units * 10 ^ (-power).toNat := by
  -- Where the place is found, the number is as many times larger.
  obtain ⟨k, small, size⟩ : ∃ k, one ≤ Nat.pow 10 k ∧
      placeOf units = (decimalSize (units * Nat.pow 10 k / one) : Int) - k :=
    ⟨400, by decide +kernel, rfl⟩
  rw [Nat.pow_eq] at small size
  have whole : units * 10 ^ k / one ≠ 0 := by
    refine Nat.ne_of_gt (Nat.div_pos ?_ one_positive)
    exact Nat.le_trans small (Nat.le_mul_of_pos_left _ (Nat.pos_of_ne_zero some_))
  have least := (Nat.le_div_iff_mul_le one_positive).1 (pow_decimalSize_le whole)
  have positive := decimalSize_pos (units * 10 ^ k / one)
  generalize decimalSize (units * 10 ^ k / one) = digits at size least positive
  have powers : 10 ^ (digits - 1) * 10 ^ (-power).toNat = 10 ^ 16 * 10 ^ power.toNat * 10 ^ k := by
    rw [← Nat.pow_add, ← Nat.pow_add, ← Nat.pow_add]
    congr 1
    omega
  refine Nat.le_of_mul_le_mul_right ?_ (Nat.pow_pos (by decide) : 0 < 10 ^ k)
  calc 10 ^ 16 * (one * 10 ^ power.toNat) * 10 ^ k = 10 ^ 16 * 10 ^ power.toNat * 10 ^ k * one := by
        rw [Nat.mul_comm one, ← Nat.mul_assoc, Nat.mul_right_comm]
    _ = 10 ^ (digits - 1) * one * 10 ^ (-power).toNat := by
        rw [← powers, Nat.mul_right_comm]
    _ ≤ units * 10 ^ k * 10 ^ (-power).toNat := Nat.mul_le_mul_right _ least
    _ = units * 10 ^ (-power).toNat * 10 ^ k := Nat.mul_right_comm _ _ _

/-- **The nearest seventeen digits** to a number are near to it. -/
theorem near_seventeen {units : Nat} (some_ : units ≠ 0) {power : Int} (place : placeOf units = power + 17) :
    Near (roundQuotient (units * 10 ^ (-power).toNat) (one * 10 ^ power.toNat) * 10 ^ power.toNat * one)
      (10 ^ (-power).toNat) units := by
  have least := place_le some_ place
  have positive : 0 < one * 10 ^ power.toNat := Nat.mul_pos one_positive (Nat.pow_pos (by decide))
  obtain ⟨below, above⟩ :=
    @Binary64.roundQuotient_near (units * 10 ^ (-power).toNat) (one * 10 ^ power.toNat) positive
  have parted (n : Nat) : n * 10 ^ power.toNat * one = one * 10 ^ power.toNat * n := by
    rw [Nat.mul_assoc, Nat.mul_comm n, Nat.mul_comm one]
  refine ⟨Nat.pow_pos (by decide), ?_, ?_⟩
  all_goals
    rw [parted]
    generalize roundQuotient _ _ = digits at *
    generalize one * 10 ^ power.toNat * digits = x at *
    generalize units * 10 ^ (-power).toNat = y at *
    omega

/-- The neighbours of a number, from what it is on the grid. -/
theorem neighbours_eq {units num den : Nat} {power : Int} (grid : onGrid units power = (num, den)) :
    ∃ n, neighbours units power = [roundQuotient num den, n] := by
  unfold neighbours
  rw [grid]
  exact ⟨_, rfl⟩

/-- How digits of a size are looked for. -/
theorem readsBack?_eq {units size : Nat} {power : Int} (place : placeOf units - size = power) :
    readsBack? units size = ((neighbours units power).find? fun n =>
      Binary64.ofDecimal false n power = .finite false units).map (trimmed · power) := by
  subst place
  rfl

/-- **Seventeen digits are enough**, whatever the number. -/
theorem readsBack?_seventeen {units : Nat} (representable : Representable units) (some_ : units ≠ 0) :
    ∃ d, readsBack? units 17 = some d := by
  obtain ⟨power, place⟩ : ∃ power, placeOf units - (17 : Nat) = power := ⟨_, rfl⟩
  have read := Binary64.ofDecimal_of_near representable some_
    (near_seventeen some_ (show placeOf units = power + 17 by omega)) false
  obtain ⟨n, neighbours⟩ := neighbours_eq (onGrid_eq units power)
  rw [readsBack?_eq place, neighbours, List.find?_cons_of_pos]
  · exact ⟨_, rfl⟩
  · exact decide_eq_true read

end Decimal

end CallTree
