/-
# CallTree.Number.Binary64 — floating-point numbers as exact multiples of the least one.

Every finite binary64 number is a whole multiple of `2 ^ (-1074)`, so a number is kept here as that
multiple (its *units*) and a sign, beside the infinities and the one value that is no number. Exact
order, exact comparison with integers and correct rounding are then statements about natural
numbers, and nothing is ever rounded twice.

Rounding goes to the nearest representable multiple, a tie to the one with the even significand.
The module promises nothing about arithmetic on floating-point numbers: this library reads,
compares and prints them, and computes with none.
-/

namespace CallTree

/-- **`Binary64`** — a floating-point number. The finite ones are `units · 2 ^ (-1074)` with a sign;
zero has both signs. -/
inductive Binary64 where
  | nan
  | infinite (negative : Bool)
  | finite (negative : Bool) (units : Nat)
  deriving DecidableEq, Repr

namespace Binary64

/-- The units of one. -/
def one : Nat := Nat.pow 2 1074

/-- Everything from these units on is beyond the finite range. -/
def limit : Nat := Nat.pow 2 2098

/-- The bits of a significand. -/
def precision : Nat := 53

/-- A quotient rounded to the nearest natural number, a tie to the even one. -/
def roundQuotient (num den : Nat) : Nat :=
  let quotient := num / den
  let twice := 2 * (num % den)
  if twice < den then quotient
  else if den < twice then quotient + 1
  else if quotient % 2 = 0 then quotient else quotient + 1

/-- The nearest number to a fraction of natural numbers, with a sign. -/
def ofRatio (negative : Bool) (num den : Nat) : Binary64 :=
  let exact := num * one
  let dropped := (exact / den).log2 + 1 - precision
  let step := Nat.pow 2 dropped
  let units := roundQuotient exact (den * step) * step
  if units < limit then .finite negative units else .infinite negative

/-- How many decimal digits a natural number has; zero has one. -/
def decimalSize (n : Nat) : Nat := (Nat.toDigits 10 n).length

/-- The nearest number to `digits · 10 ^ exponent`. Exponents that take the number out of the
range by a whole decimal place or more are settled without computing the power. -/
def ofDecimal (negative : Bool) (digits : Nat) (exponent : Int) : Binary64 :=
  if digits = 0 then .finite negative 0
  else
    let magnitude := (decimalSize digits : Int) + exponent
    if 310 ≤ magnitude then .infinite negative
    else if magnitude ≤ -324 then .finite negative 0
    else if 0 ≤ exponent then ofRatio negative (digits * Nat.pow 10 exponent.toNat) 1
    else ofRatio negative digits (Nat.pow 10 (-exponent).toNat)

/-- A number that is not infinite. -/
def finite? : Binary64 → Option Binary64
  | .infinite _ => none
  | x => some x

/-- The nearest number to an integer, if that is finite. -/
def ofInt? (n : Int) : Option Binary64 := (ofRatio (n < 0) n.natAbs 1).finite?

/-- The integer part of a finite number, toward zero. -/
def truncate (negative : Bool) (units : Nat) : Int :=
  if negative then -((units / one : Nat) : Int) else ((units / one : Nat) : Int)

/-! ## Exact order -/

/-- A point of the extended number line, in units. -/
inductive Point where
  | bottom
  | units (n : Int)
  | top
  deriving DecidableEq, Repr

namespace Point

/-- The order of the extended number line. -/
def lt : Point → Point → Bool
  | .bottom, .bottom => false
  | .bottom, _ => true
  | .units _, .bottom => false
  | .units a, .units b => a < b
  | .units _, .top => true
  | .top, _ => false

end Point

/-- The point of a number; what is no number has none. Both zeros are one point. -/
def point? : Binary64 → Option Point
  | .nan => none
  | .infinite true => some .bottom
  | .infinite false => some .top
  | .finite negative units => some (.units (if negative then -(units : Int) else units))

/-- The point of an integer. -/
def intPoint (n : Int) : Point := .units (n * one)

end Binary64

end CallTree
