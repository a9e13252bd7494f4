/-
# CallTree.Yaml.Scalar — what the text of a scalar stands for.

A scalar without quotes is a boolean, a number, null or a date if it is spelled like one, and a text
otherwise (`kindOf`). The spellings are those of YAML 1.1: `yes`, `no`, `on` and `off` are booleans,
a number that starts with a zero is octal, low lines between digits do not count, and digits with
colons are to the base 60. An exponent without a point makes no number.

A tag may say what a scalar stands for whatever its spelling; so the readings (`boolean`, `int`,
`float`, `date`) take any text and may fail.
-/
import CallTree.Text.Lower
import CallTree.Text.Percent
import CallTree.Value
import CallTree.Yaml.Date

namespace CallTree.Yaml

/-- What a scalar without quotes and tag is taken for. -/
inductive ScalarKind where
  | bool
  | float
  | int
  | merge
  | null
  | date
  /-- The mark of a default value. -/
  | value
  | text
  deriving DecidableEq, Repr

/-- Why a scalar is not what its tag says. -/
inductive ScalarFault where
  | noBool (word : String)
  | noInt (base : Nat) (text : String)
  | tooManyDigits (count : Nat)
  | noFloat (text : String)
  /-- A number without any character. -/
  | empty
  | noDate
  | date (f : Date.Fault)
  deriving DecidableEq, Repr

/-- So much of a text that spells no whole number is shown. -/
def shownLength : Nat := 200

/-- The sentence of a scalar fault. -/
def ScalarFault.message : ScalarFault → String
  | .noBool word => Text.Quoted.text word
  | .noInt base text => "invalid literal for int() with base " ++ toString base ++ ": " ++
      String.ofList ((Text.Quoted.text text).toList.take shownLength)
  | .tooManyDigits count => Reading.tooManyDigitsMessage count
  | .noFloat text => "could not convert string to float: " ++ Text.Quoted.text text
  | .empty => "string index out of range"
  | .noDate => "'NoneType' object has no attribute 'groupdict'"
  | .date f => f.message

/-! ## Spellings -/

/-- The words for true. -/
def trueWords : List String := ["yes", "Yes", "YES", "true", "True", "TRUE", "on", "On", "ON"]

/-- The words for false. -/
def falseWords : List String :=
  ["no", "No", "NO", "false", "False", "FALSE", "off", "Off", "OFF"]

/-- The words for null. -/
def nullWords : List String := ["", "~", "null", "Null", "NULL"]

/-- A digit or a low line. -/
def isDigitOrLine (c : Char) : Bool := c.isDigit || c = '_'

/-- Digits and low lines that start with a digit. -/
def isDigitRun : List Char → Bool
  | [] => false
  | c :: rest => c.isDigit && rest.all isDigitOrLine

/-- A part to the base 60: one digit, or two of which the first is at most five. -/
def isSixtieth : List Char → Bool
  | [a] => a.isDigit
  | [a, b] => a.isDigit && a.toNat < '6'.toNat && b.isDigit
  | _ => false

/-- Digits, and parts to the base 60 after colons. -/
def isSexagesimal (cs : List Char) : Bool :=
  match Text.split ':' cs with
  | first :: rest => isDigitRun first && rest.all isSixtieth
  | [] => false

/-- Whether a text is not empty and all its characters satisfy `p`. -/
def isAll (p : Char → Bool) (cs : List Char) : Bool := !cs.isEmpty && cs.all p

/-- Whether a text is spelled like an integer. -/
def isInt (cs : List Char) : Bool :=
  match (Reading.sign cs).2 with
  | ['0'] => true
  | '0' :: 'b' :: ds => isAll (fun c => c = '0' || c = '1' || c = '_') ds
  | '0' :: 'x' :: ds => isAll (fun c => (Text.Percent.hexValue? c).isSome || c = '_') ds
  | '0' :: ds => isAll (fun c => ('0' ≤ c && c ≤ '7') || c = '_') ds
  | cs => isSexagesimal cs

/-- Whether a text is an exponent: nothing, or a mark, a sign and digits. -/
def isExponent : List Char → Bool
  | [] => true
  | mark :: sign :: ds =>
    (mark = 'e' || mark = 'E') && (sign = '+' || sign = '-') && isAll Char.isDigit ds
  | _ => false

/-- Whether a text is spelled like a floating-point number. One that starts with a point has no
sign, except for the infinities. -/
def isFloat (cs : List Char) : Bool :=
  let rest := (Reading.sign cs).2
  [".inf", ".Inf", ".INF"].contains (String.ofList rest) ||
  [".nan", ".NaN", ".NAN"].contains (String.ofList cs) ||
  (match cs with
    | '.' :: tail =>
      isDigitRun (tail.takeWhile isDigitOrLine) && isExponent (tail.dropWhile isDigitOrLine)
    | _ =>
      let whole := rest.takeWhile (· ≠ '.')
      match rest.dropWhile (· ≠ '.') with
      | '.' :: tail =>
        let after := tail.dropWhile isDigitOrLine
        if whole.contains ':' then isSexagesimal whole && after.isEmpty
        else isDigitRun whole && isExponent after
      | _ => false)

/-- **What a text without quotes and tag is taken for.** -/
def kindOf (s : String) : ScalarKind :=
  let cs := s.toList
  if trueWords.contains s || falseWords.contains s then .bool
  else if isFloat cs then .float
  else if isInt cs then .int
  else if s = "<<" then .merge
  else if nullWords.contains s then .null
  else if Date.isSpelled cs then .date
  else if s = "=" then .value
  else .text

/-- Whether a text stands for itself without quotes. -/
def isPlainText (s : String) : Bool := kindOf s = .text

/-! ## Readings -/

/-- A boolean, in any case. -/
def boolean (s : String) : Except ScalarFault Bool :=
  let word := Text.lower s
  if trueWords.contains word then .ok true
  else if falseWords.contains word then .ok false
  else .error (.noBool word)

/-- A text without low lines. -/
def withoutLines (cs : List Char) : List Char := cs.filter (· ≠ '_')

/-- The marks of bases in front of digits. -/
def baseMarks : List (Nat × Char) := [(2, 'b'), (8, 'o'), (16, 'x')]

/-- The digits to a base without the mark of the base. -/
def unmarked (base : Nat) : List Char → List Char
  | '0' :: mark :: ds => if baseMarks.lookup base = some mark.toLower then ds else '0' :: mark :: ds
  | ds => ds

/-- A whole number to a base, with blanks around it, a sign and possibly the mark of the base. -/
def intTo (base : Nat) (s : String) : Except ScalarFault Int :=
  if base = 10 then
    (Reading.int s).mapError fun
      | .malformed => .noInt base s
      | .tooManyDigits count => .tooManyDigits count
  else
    let (negative, rest) := Reading.sign (Reading.spelling s)
    let ds := unmarked base rest
    let isDigit (c : Char) : Bool := (Text.Percent.hexValue? c).any (· < base)
    if isAll isDigit ds then
      let n := ds.foldl (fun n c => n * base + (Text.Percent.hexValue? c).getD 0) 0
      .ok (if negative then -(n : Int) else n)
    else .error (.noInt base s)

/-- The texts between colons. -/
def colonParts (cs : List Char) : List String := (Text.split ':' cs).map String.ofList

/-- A whole number without its sign. -/
def magnitude (cs : List Char) : Except ScalarFault Int :=
  match cs with
  | [] => .error .empty
  | ['0'] => .ok 0
  | '0' :: 'b' :: ds => intTo 2 (String.ofList ds)
  | '0' :: 'x' :: ds => intTo 16 (String.ofList ds)
  | '0' :: ds => intTo 8 (String.ofList ('0' :: ds))
  | _ =>
    if cs.contains ':' then
      ((colonParts cs).mapM (intTo 10)).map fun parts => parts.foldl (fun n part => n * 60 + part) 0
    else intTo 10 (String.ofList cs)

/-- **A whole number.** -/
def int (s : String) : Except ScalarFault Int :=
  let cs := withoutLines s.toList
  if cs.isEmpty then .error .empty
  else
    let (negative, rest) := Reading.sign cs
    (magnitude rest).map fun n => if negative then -n else n

/-- A decimal number. -/
def decimal (s : String) : Except ScalarFault Binary64 :=
  match Reading.float? s with
  | some x => .ok x
  | none => .error (.noFloat s)

/-- A number with the other sign. -/
def negated : Binary64 → Binary64
  | .nan => .nan
  | .infinite negative => .infinite !negative
  | .finite negative units => .finite (!negative) units

/-- The units of a number with its sign, if it is finite. -/
def signedUnits? : Binary64 → Option Int
  | .finite negative units => some (if negative then -(units : Int) else units)
  | _ => none

/-- The sum of two numbers; of the infinities, the first one counts. -/
def sum (x y : Binary64) : Binary64 :=
  match signedUnits? x, signedUnits? y with
  | some a, some b => .ofRatio (a + b < 0) (a + b).natAbs Binary64.one
  | none, _ => x
  | some _, none => y

/-- A number as often as given. -/
def times : Binary64 → Nat → Binary64
  | .finite negative a, n => .ofRatio negative (a * n) Binary64.one
  | x, _ => x

/-- The sum of numbers to the base 60, the last one first, rounded after every step. -/
def sixtieths : (base : Nat) → Binary64 → List Binary64 → Binary64
  | _, total, [] => total
  | base, total, x :: rest => sixtieths (base * 60) (sum total (times x base)) rest

/-- **A floating-point number.** -/
def float (s : String) : Except ScalarFault Binary64 :=
  let cs := (withoutLines s.toList).map Char.toLower
  if cs.isEmpty then .error .empty
  else
    let (negative, rest) := Reading.sign cs
    let word := String.ofList rest
    let found : Except ScalarFault Binary64 :=
      if word = ".inf" then .ok (.infinite false)
      else if word = ".nan" then .ok .nan
      else if rest.contains ':' then
        ((colonParts rest).mapM decimal).map fun parts =>
          sixtieths 1 (.finite false 0) parts.reverse
      else decimal word
    found.map fun x => if negative then negated x else x

/-- **A date**, as its text. -/
def date (s : String) : Except ScalarFault Value :=
  match Date.Spelling.read? s.toList with
  | none => .error .noDate
  | some spelling =>
    match spelling.text with
    | .ok text => .ok (.date text spelling.time.isSome)
    | .error f => .error (.date f)

end CallTree.Yaml
