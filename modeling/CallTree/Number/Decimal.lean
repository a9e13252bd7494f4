/-
# CallTree.Number.Decimal — decimal digits of numbers.

A whole number is written with all its digits, unless it has more of them than are written or read of any
(`digitLimit`). For floating-point numbers there are two ways to choose digits and one way to lay them out.

* `shortest`: the fewest digits that read back as the number, and of those the nearest. For one to
  seventeen digits the two neighbours of the number on the decimal grid are tried.
* `significant`: a fixed count of digits, correctly rounded from the exact value.
* `layout`: digits and the place of the point as text. A `Notation` record says for which places
  positional notation is used and whether whole numbers keep a fraction.
-/
import CallTree.Number.Binary64

namespace CallTree.Decimal

open CallTree (Binary64)
open CallTree.Binary64 (roundQuotient ofDecimal decimalSize)

/-! ## Whole numbers -/

/-- The most digits with which a whole number is written or read. -/
def digitLimit : Nat := 4300

/-- The sentence that refuses a number of too many digits; where a number is read, it says how many. -/
def tooManyDigitsMessage (found : String) : String :=
  "Exceeds the limit (" ++ toString digitLimit ++ " digits) for integer string conversion" ++ found ++
    "; use sys.set_int_max_str_digits() to increase the limit"

/-- Why a whole number is not written. -/
inductive Fault where
  | tooManyDigits
  deriving DecidableEq, Repr

/-- The sentence of a fault. -/
def Fault.message : Fault → String
  | .tooManyDigits => tooManyDigitsMessage ""

/-- A number that has not too many digits. -/
def Short (n : Int) : Prop := decimalSize n.natAbs ≤ digitLimit

instance (n : Int) : Decidable (Short n) := Nat.decLe _ _

/-- **The text of a whole number**, if it has not too many digits. -/
def whole (n : Int) : Except Fault String :=
  if Short n then .ok (toString n) else .error .tooManyDigits

/-! ## Digits of floating-point numbers -/

/-- Digits with the place of the decimal point: `0.d₁d₂… · 10 ^ place`. -/
structure Digits where
  digits : List Char
  place : Int
  deriving DecidableEq, Repr

/-- The place of the leading digit of a positive number of units: the number lies between
`10 ^ (place - 1)` and `10 ^ place`. -/
def placeOf (units : Nat) : Int :=
  (decimalSize (units * Nat.pow 10 400 / Binary64.one) : Int) - 400

/-- The number divided by `10 ^ power`, as a fraction. -/
def onGrid (units : Nat) (power : Int) : Nat × Nat :=
  if 0 ≤ power then (units, Binary64.one * Nat.pow 10 power.toNat)
  else (units * Nat.pow 10 (-power).toNat, Binary64.one)

/-- The digits of a natural number that counts `10 ^ power`, without zeros at the end. -/
def trimmed (count : Nat) (power : Int) : Digits :=
  let all := Nat.toDigits 10 count
  { digits := (all.reverse.dropWhile (· = '0')).reverse, place := all.length + power }

/-- The neighbours of a number on a decimal grid, the nearer first. -/
def neighbours (units : Nat) (power : Int) : List Nat :=
  let (num, den) := onGrid units power
  let nearer := roundQuotient num den
  let floor := num / den
  [nearer, if nearer = floor then floor + 1 else floor]

/-- The first neighbour on the grid of `size` digits that reads back as the number. -/
def readsBack? (units size : Nat) : Option Digits :=
  let power := placeOf units - size
  ((neighbours units power).find? fun count =>
    ofDecimal false count power = .finite false units).map (trimmed · power)

/-- **Shortest digits** of a positive number of units. -/
def shortest (units : Nat) : Digits :=
  match (List.range 17).findSome? fun i => readsBack? units (i + 1) with
  | some d => d
  | none => trimmed ((neighbours units (placeOf units - 17)).headD 0) (placeOf units - 17)

/-- **Significant digits**: `size` of them, rounded from the exact value; zeros at the end are
dropped. -/
def significant (size units : Nat) : Digits :=
  let power := placeOf units - size
  let (num, den) := onGrid units power
  trimmed (roundQuotient num den) power

/-- How digits become text: positional notation is used if the point lies after
`leastPlace` and not after `greatestPlace`; `keepsFraction` adds `.0` to whole numbers. -/
structure Notation where
  leastPlace : Int
  greatestPlace : Int
  keepsFraction : Bool

/-- The notation of data and messages: positional from `0.0001` to below `10 ^ 16`. -/
def dataNotation : Notation := ⟨-4, 16, true⟩

/-- The notation of durations: positional from `0.0001` to below a million. -/
def durationNotation : Notation := ⟨-4, 6, false⟩

/-- An exponent with its sign and at least two digits. -/
def exponentText (e : Int) : List Char :=
  let digits := Nat.toDigits 10 e.natAbs
  (if e < 0 then '-' else '+') :: (if digits.length = 1 then '0' :: digits else digits)

/-- Digits as text. -/
def layout (form : Notation) (d : Digits) : List Char :=
  if form.leastPlace < d.place && d.place ≤ form.greatestPlace then
    if d.place ≤ 0 then '0' :: '.' :: List.replicate (-d.place).toNat '0' ++ d.digits
    else
      let whole := d.digits.take d.place.toNat
      let fraction := d.digits.drop d.place.toNat
      let zeros := List.replicate (d.place.toNat - whole.length) '0'
      let tail := if fraction.isEmpty then (if form.keepsFraction then ['.', '0'] else [])
        else '.' :: fraction
      whole ++ zeros ++ tail
  else
    let fraction := if d.digits.length ≤ 1 then [] else '.' :: d.digits.drop 1
    d.digits.take 1 ++ fraction ++ 'e' :: exponentText (d.place - 1)

/-- The text of a number under a choice of digits, a notation and names for what is not finite. -/
def text (choose : Nat → Digits) (form : Notation) (infinity noNumber : String) :
    Binary64 → String
  | .nan => noNumber
  | .infinite negative => if negative then "-" ++ infinity else infinity
  | .finite negative units =>
    let body := if units = 0 then layout form ⟨['0'], 1⟩ else layout form (choose units)
    String.ofList (if negative then '-' :: body else body)

/-- The text of a number in messages. -/
def message (x : Binary64) : String := text shortest dataNotation "inf" "nan" x

/-- The text of a number in documents. -/
def document (x : Binary64) : String := text shortest dataNotation "Infinity" "NaN" x

/-- The text of a number of seconds: six significant digits. -/
def duration (x : Binary64) : String := text (significant 6) durationNotation "inf" "nan" x

end CallTree.Decimal
