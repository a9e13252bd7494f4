/-
# CallTree.Json.Reader — documents as values, with the place of the first fault.

The grammar is that of JSON with three words more (`NaN`, `Infinity`, `-Infinity`). A number with a
fraction or an exponent is a floating-point number, any other an integer, of any size up to the
limit on digits. A key that an
object repeats keeps its first place and its last value.

Reading functions return what is left of the text. A fault names the text that was left where it
arose, so that its position is a difference of lengths. Reading stops at the first fault in text
order; a fault in a string that never ends is placed at its opening quote. Half of a surrogate pair
without the other half reads as the replacement character.

Recursion is bounded by a count that the length of the text determines (`read`).
-/
import CallTree.Number.Reading
import CallTree.Text.Percent
import CallTree.Text.Split
import CallTree.Value

namespace CallTree.Json

/-- What a reader misses or refuses. -/
inductive Cause where
  | value
  | name
  | colon
  | comma
  | stringEnd
  | controlCharacter
  | escape
  | unicodeEscape
  | extraData
  | byteOrderMark
  | tooManyDigits (count : Nat)
  deriving DecidableEq, Repr

/-- The sentence of a cause. -/
def Cause.message : Cause → String
  | .value => "Expecting value"
  | .name => "Expecting property name enclosed in double quotes"
  | .colon => "Expecting ':' delimiter"
  | .comma => "Expecting ',' delimiter"
  | .stringEnd => "Unterminated string starting at"
  | .controlCharacter => "Invalid control character at"
  | .escape => "Invalid \\escape"
  | .unicodeEscape => "Invalid \\uXXXX escape"
  | .extraData => "Extra data"
  | .byteOrderMark => "Unexpected UTF-8 BOM (decode using utf-8-sig)"
  | .tooManyDigits count => Reading.tooManyDigitsMessage count

/-- Whether a cause lies in a value and not in how the document is written. -/
def Cause.isOfValue : Cause → Bool
  | .tooManyDigits _ => true
  | _ => false

/-- A cause, and what was left of the text where it arose. -/
structure Stop where
  cause : Cause
  left : List Char
  deriving DecidableEq, Repr

/-- A cause and its position in the text. -/
structure Fault where
  cause : Cause
  position : Nat
  line : Nat
  column : Nat
  deriving DecidableEq, Repr

/-- The sentence that reports a fault; a fault of a value is reported without its place. -/
def Fault.message (f : Fault) : String :=
  if f.cause.isOfValue then f.cause.message
  else f.cause.message ++ ": line " ++ toString f.line ++ " column " ++ toString f.column ++
    " (char " ++ toString f.position ++ ")"

/-- The blanks between the parts of a document. -/
def isLayout (c : Char) : Bool := c = ' ' || c = '\t' || c = '\n' || c = '\r'

/-- Drop blanks. -/
def skip (cs : List Char) : List Char := cs.dropWhile isLayout

/-! ## Strings -/

/-- The character of a one-character escape. -/
def escape? : Char → Option Char
  | '\x22' => some '\x22'
  | '\\' => some '\\'
  | '/' => some '/'
  | 'b' => some (Char.ofNat 8)
  | 'f' => some (Char.ofNat 12)
  | 'n' => some '\n'
  | 'r' => some '\r'
  | 't' => some '\t'
  | _ => none

/-- The code of four hexadecimal digits; something has to follow them. -/
def hexCode? : List Char → Option (Nat × List Char)
  | a :: b :: c :: d :: e :: rest =>
    match Text.Percent.hexValue? a, Text.Percent.hexValue? b,
        Text.Percent.hexValue? c, Text.Percent.hexValue? d with
    | some w, some x, some y, some z => some (((w * 16 + x) * 16 + y) * 16 + z, e :: rest)
    | _, _, _, _ => none
  | _ => none

/-- Whether a code is the first half of a surrogate pair. -/
def isHighHalf (n : Nat) : Bool := 0xd800 ≤ n && n < 0xdc00

/-- Whether a code is the second half of a surrogate pair. -/
def isLowHalf (n : Nat) : Bool := 0xdc00 ≤ n && n < 0xe000

/-- The character of a code; a half of a pair is replaced. -/
def codeChar (n : Nat) : Char :=
  if isHighHalf n || isLowHalf n then Char.ofNat 0xfffd else Char.ofNat n

/-- The character of an escape by code, given what follows its `u`, and what follows the escape. A
second escape is read too where the first is the first half of a pair. -/
def unicodeEscape (afterMark : List Char) : Except Stop (Char × List Char) :=
  match hexCode? afterMark with
  | none => .error ⟨.unicodeEscape, 'u' :: afterMark⟩
  | some (high, rest) =>
    match isHighHalf high, rest with
    | true, '\\' :: 'u' :: more =>
      if more.length < 5 then .ok (codeChar high, rest)
      else
        match hexCode? more with
        | none => .error ⟨.unicodeEscape, 'u' :: more⟩
        | some (low, tail) =>
          if isLowHalf low then
            .ok (Char.ofNat (0x10000 + (high - 0xd800) * 0x400 + (low - 0xdc00)), tail)
          else .ok (codeChar high, rest)
    | _, _ => .ok (codeChar high, rest)

/-- The characters of a string after its opening quote, and what follows its closing one.
`opening` is the text from the opening quote on. -/
def stringBody (opening : List Char) :
    (fuel : Nat) → List Char → Except Stop (List Char × List Char)
  | 0, _ => .error ⟨.stringEnd, opening⟩
  | _ + 1, [] => .error ⟨.stringEnd, opening⟩
  | _ + 1, '\x22' :: rest => .ok ([], rest)
  | _ + 1, ['\\'] => .error ⟨.stringEnd, opening⟩
  | fuel + 1, '\\' :: c :: rest =>
    if c = 'u' then
      match unicodeEscape rest with
      | .error e => .error e
      | .ok (d, tail) => (stringBody opening fuel tail).map fun (ds, left) => (d :: ds, left)
    else
      match escape? c with
      | none => .error ⟨.escape, '\\' :: c :: rest⟩
      | some d => (stringBody opening fuel rest).map fun (ds, left) => (d :: ds, left)
  | fuel + 1, c :: rest =>
    if c.toNat < 0x20 then .error ⟨.controlCharacter, c :: rest⟩
    else (stringBody opening fuel rest).map fun (ds, left) => (c :: ds, left)

/-- A string, given what follows its opening quote. -/
def string (afterQuote : List Char) : Except Stop (String × List Char) :=
  (stringBody ('\x22' :: afterQuote) (afterQuote.length + 1) afterQuote).map
    fun (cs, left) => (String.ofList cs, left)

/-! ## Numbers -/

/-- The digits of a whole part: a zero alone, or digits that do not start with one. -/
def wholeDigits : List Char → List Char × List Char
  | '0' :: rest => (['0'], rest)
  | cs => (cs.takeWhile Char.isDigit, cs.dropWhile Char.isDigit)

/-- The digits of a fraction; without a digit after the point there is none. -/
def fractionDigits : List Char → List Char × List Char
  | '.' :: d :: rest =>
    if d.isDigit then
      (d :: rest.takeWhile Char.isDigit, rest.dropWhile Char.isDigit)
    else ([], '.' :: d :: rest)
  | cs => ([], cs)

/-- An exponent; without a digit there is none. -/
def exponent? : List Char → Option (Int × List Char)
  | mark :: rest =>
    if mark = 'e' || mark = 'E' then
      let (negative, digits) := Reading.sign rest
      let ds := digits.takeWhile Char.isDigit
      if ds.isEmpty then none
      else
        let n : Int := Reading.natOf ds
        some (if negative then -n else n, digits.dropWhile Char.isDigit)
    else none
  | [] => none

/-- A number. -/
def number (cs : List Char) : Except Stop (Value × List Char) :=
  let (negative, unsigned) :=
    match cs with
    | '-' :: rest => (true, rest)
    | _ => (false, cs)
  let (whole, afterWhole) := wholeDigits unsigned
  if whole.isEmpty then .error ⟨.value, cs⟩
  else
    let (fraction, afterFraction) := fractionDigits afterWhole
    match fraction, exponent? afterFraction with
    | [], none =>
      match Reading.natUpToLimit whole with
      | .ok n => .ok (.int (if negative then -(n : Int) else n), afterWhole)
      | .error _ => .error ⟨.tooManyDigits whole.length, cs⟩
    | _, none =>
      .ok (.float (Binary64.ofDecimal negative (Reading.natOf (whole ++ fraction))
        (-(fraction.length : Int))), afterFraction)
    | _, some (e, rest) =>
      .ok (.float (Binary64.ofDecimal negative (Reading.natOf (whole ++ fraction))
        (e - fraction.length)), rest)

/-! ## Documents -/

mutual

/-- A value, starting at once. -/
def value (fuel : Nat) (cs : List Char) : Except Stop (Value × List Char) :=
  match fuel with
  | 0 => .error ⟨.value, cs⟩
  | fuel + 1 =>
    match cs with
    | '\x22' :: rest => (string rest).map fun (s, left) => (.text s, left)
    | '\x7b' :: rest =>
      match skip rest with
      | '\x7d' :: left => .ok (.object [], left)
      | first => (fields fuel [] first).map fun (fs, left) => (.object fs, left)
    | '[' :: rest =>
      match skip rest with
      | ']' :: left => .ok (.list [], left)
      | first => (items fuel first).map fun (xs, left) => (.list xs, left)
    | 'n' :: 'u' :: 'l' :: 'l' :: rest => .ok (.null, rest)
    | 't' :: 'r' :: 'u' :: 'e' :: rest => .ok (.bool true, rest)
    | 'f' :: 'a' :: 'l' :: 's' :: 'e' :: rest => .ok (.bool false, rest)
    | 'N' :: 'a' :: 'N' :: rest => .ok (.float .nan, rest)
    | 'I' :: 'n' :: 'f' :: 'i' :: 'n' :: 'i' :: 't' :: 'y' :: rest =>
      .ok (.float (.infinite false), rest)
    | '-' :: 'I' :: 'n' :: 'f' :: 'i' :: 'n' :: 'i' :: 't' :: 'y' :: rest =>
      .ok (.float (.infinite true), rest)
    | _ => number cs

/-- The items of a list from its first on, and what follows the closing bracket. -/
def items (fuel : Nat) (cs : List Char) : Except Stop (List Value × List Char) :=
  match fuel with
  | 0 => .error ⟨.value, cs⟩
  | fuel + 1 =>
    match value fuel cs with
    | .error e => .error e
    | .ok (v, rest) =>
      match skip rest with
      | ']' :: left => .ok ([v], left)
      | ',' :: more => (items fuel (skip more)).map fun (vs, left) => (v :: vs, left)
      | other => .error ⟨.comma, other⟩

/-- The fields of an object from its first key on, written after those in `sofar`, and what follows
the closing brace. -/
def fields (fuel : Nat) (sofar : Table Value) (cs : List Char) :
    Except Stop (Table Value × List Char) :=
  match fuel with
  | 0 => .error ⟨.name, cs⟩
  | fuel + 1 =>
    match cs with
    | '\x22' :: rest =>
      match string rest with
      | .error e => .error e
      | .ok (key, afterKey) =>
        match skip afterKey with
        | ':' :: beforeValue =>
          match value fuel (skip beforeValue) with
          | .error e => .error e
          | .ok (v, afterValue) =>
            let written := Table.set sofar key v
            match skip afterValue with
            | '\x7d' :: left => .ok (written, left)
            | ',' :: more => fields fuel written (skip more)
            | other => .error ⟨.comma, other⟩
        | other => .error ⟨.colon, other⟩
    | other => .error ⟨.name, other⟩

end

/-- A document: one value with blanks around it. -/
def document (cs : List Char) : Except Stop Value :=
  if cs.head? = some (Char.ofNat 0xfeff) then .error ⟨.byteOrderMark, cs⟩
  else
    match value (2 * cs.length + 2) (skip cs) with
    | .error e => .error e
    | .ok (v, rest) =>
      match skip rest with
      | [] => .ok v
      | left => .error ⟨.extraData, left⟩

/-- Where reading stopped, as a position in the text. -/
def Stop.place (cs : List Char) (e : Stop) : Fault :=
  let position := cs.length - e.left.length
  let (line, column) := Text.lineAndColumn cs position
  ⟨e.cause, position, line, column⟩

/-- **Read a document.** -/
def read (s : String) : Except Fault Value :=
  (document s.toList).mapError (Stop.place s.toList)

end CallTree.Json
