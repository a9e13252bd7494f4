/-
# CallTree.Number.Reading — numbers as people write them in settings.

Digits may be of any script and single low lines may stand between digits; blanks around the number
do not count, except the four information separators, which are no blanks here. A whole number is a
sign and digits. A decimal number has a sign, digits with at most one point, and an exponent; or it
is spelled `inf`, `infinity` or `nan` in any case.

Whole numbers of very many digits are refused, by their number of digits.
-/
import CallTree.Number.Decimal
import CallTree.Text.Alphanumeric
import CallTree.Text.Blank

namespace CallTree.Reading

open CallTree (Binary64)
open CallTree.Decimal (digitLimit)

/-- Blanks that may surround a number. -/
def isNumberBlank (c : Char) : Bool :=
  Text.isBlank c && !(0x1c ≤ c.toNat && c.toNat ≤ 0x1f)

/-- A digit of any script as the ASCII digit of its value; any other character as it is. -/
def plainDigit (c : Char) : Char :=
  match Text.digitValue? c with
  | some d => Char.ofNat (48 + d)
  | none => c

/-- The characters that spell a number: without blanks around them, with plain digits. -/
def spelling (s : String) : List Char := (Text.trimWhile isNumberBlank s.toList).map plainDigit

/-- Digits with single low lines between them, and what follows. A low line counts as part of the
run only between two digits; `inside` holds right after a digit. -/
def digitRunFrom (inside : Bool) : List Char → List Char × List Char
  | [] => ([], [])
  | c :: rest =>
    if c.isDigit then
      let (ds, tail) := digitRunFrom true rest
      (c :: ds, tail)
    else if inside && c = '_' && rest.head?.any Char.isDigit then digitRunFrom false rest
    else ([], c :: rest)

/-- The digits in front of a text, and what follows them. -/
def digitRun (cs : List Char) : List Char × List Char := digitRunFrom false cs

/-- The natural number that decimal digits spell. -/
def natOf (digits : List Char) : Nat := digits.foldl (fun n c => n * 10 + (c.toNat - 48)) 0

/-- Split off a sign. -/
def sign : List Char → Bool × List Char
  | '-' :: rest => (true, rest)
  | '+' :: rest => (false, rest)
  | cs => (false, cs)

/-- Why a text is no whole number. -/
inductive Fault where
  | malformed
  | tooManyDigits (count : Nat)
  deriving DecidableEq, Repr

/-- The sentence that refuses a number of too many digits. -/
def tooManyDigitsMessage (count : Nat) : String :=
  Decimal.tooManyDigitsMessage (": value has " ++ toString count ++ " digits")

/-- The natural number that decimal digits spell, if they are not too many, leading zeros included. -/
def natUpToLimit (digits : List Char) : Except Fault Nat :=
  if digitLimit < digits.length then .error (.tooManyDigits digits.length)
  else .ok (natOf digits)

/-- **Read a whole number.** Too many digits are reported even if something else follows them, but
not if a low line out of place does. -/
def int (s : String) : Except Fault Int :=
  let (negative, rest) := sign (spelling s)
  let (digits, tail) := digitRun rest
  if digits.isEmpty || tail.head? = some '_' then .error .malformed
  else
    match natUpToLimit digits with
    | .error f => .error f
    | .ok n => if tail.isEmpty then .ok (if negative then -(n : Int) else n) else .error .malformed

/-- Read an exponent: nothing, or a mark, a sign and digits to the end. -/
def exponent? : List Char → Option Int
  | [] => some 0
  | mark :: rest =>
    if mark = 'e' || mark = 'E' then
      let (negative, digits) := sign rest
      match digitRun digits with
      | (d :: ds, []) =>
        let n : Int := natOf (d :: ds)
        some (if negative then -n else n)
      | _ => none
    else none

/-- Read a decimal number. -/
def float? (s : String) : Option Binary64 :=
  let (negative, rest) := sign (spelling s)
  let word := String.ofList (rest.map Char.toLower)
  if word = "inf" || word = "infinity" then some (.infinite negative)
  else if word = "nan" then some .nan
  else
    let (whole, afterWhole) := digitRun rest
    let (fraction, tail) :=
      match afterWhole with
      | '.' :: more => digitRun more
      | _ => ([], afterWhole)
    if whole.isEmpty && fraction.isEmpty then none
    else
      (exponent? tail).map fun e =>
        Binary64.ofDecimal negative (natOf (whole ++ fraction)) (e - fraction.length)

end CallTree.Reading
