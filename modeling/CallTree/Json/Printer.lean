/-
# CallTree.Json.Printer — values as documents.

One printer with a style. Lists and tuples are written alike. Octet strings, patterns and things of the
host have no document form, nor have whole numbers of too many digits; what is no number and the infinities
have one only where the style admits the words for them. The first part that cannot be written, in document
order, is the fault.
-/
import CallTree.Number.Decimal
import CallTree.Text.Quoted
import CallTree.Value

namespace CallTree.Json

/-- How a document is laid out. -/
structure Style where
  /-- What stands between a key and its value. -/
  keyMark : String
  /-- What stands between two items on one line. -/
  itemMark : String
  /-- With a width, every item has a line of its own, indented by the width for each level. -/
  indent : Option Nat
  /-- Whether characters outside printable ASCII are written as escapes. -/
  escapes : Bool
  /-- Whether the words for what is no number and for the infinities are admitted. -/
  extended : Bool

namespace Style

/-- One line with spaces, escapes, and the words beyond numbers. -/
def message : Style := ⟨": ", ", ", none, true, true⟩

/-- A line for every item, with escapes and the words beyond numbers. -/
def report : Style := ⟨": ", ",", some 2, true, true⟩

/-- No space at all, no escapes, and numbers only. -/
def compact : Style := ⟨":", ",", none, false, false⟩

end Style

/-- Why a value has no document form. -/
inductive PrintFault where
  | kind (k : Value.Kind)
  | noNumber
  | whole (f : Decimal.Fault)
  deriving DecidableEq, Repr

/-- The sentence of a fault. -/
def PrintFault.message : PrintFault → String
  | .kind k => "Object of type " ++ k.name ++ " is not JSON serializable"
  | .noNumber => "Out of range float values are not JSON compliant"
  | .whole f => f.message

/-- An escape by code. -/
def codeEscape (n : Nat) : List Char := '\\' :: 'u' :: Text.Quoted.hex 4 n

/-- A character as it stands between the quotes of a string. -/
def stringChar (escapes : Bool) (c : Char) : List Char :=
  if c = '\x22' || c = '\\' then ['\\', c]
  else if c = '\n' then ['\\', 'n']
  else if c = '\r' then ['\\', 'r']
  else if c = '\t' then ['\\', 't']
  else if c.toNat = 8 then ['\\', 'b']
  else if c.toNat = 12 then ['\\', 'f']
  else if c.toNat < 0x20 then codeEscape c.toNat
  else if escapes && 0x7e < c.toNat then
    if c.toNat < 0x10000 then codeEscape c.toNat
    else
      let n := c.toNat - 0x10000
      codeEscape (0xd800 + n / 0x400) ++ codeEscape (0xdc00 + n % 0x400)
  else [c]

/-- A string with its quotes. -/
def quoted (escapes : Bool) (s : String) : String :=
  String.ofList ('\x22' :: s.toList.flatMap (stringChar escapes) ++ ['\x22'])

/-- A line end and the indentation of a level, where the style has lines. -/
def Style.line (style : Style) (level : Nat) : String :=
  match style.indent with
  | some width => String.ofList ('\n' :: List.replicate (width * level) ' ')
  | none => ""

/-- Brackets around the texts of items. -/
def bracketed (style : Style) (level : Nat) (opening closing : String) :
    List String → String
  | [] => opening ++ closing
  | first :: rest =>
    let inner := style.line (level + 1)
    let tail := rest.foldl (fun acc s => acc ++ style.itemMark ++ inner ++ s) ""
    opening ++ inner ++ first ++ tail ++ style.line level ++ closing

/-- The text of a floating-point number. -/
def floatText (style : Style) (x : Binary64) : Except PrintFault String :=
  match x with
  | .finite _ _ => .ok (Decimal.document x)
  | _ => if style.extended then .ok (Decimal.document x) else .error .noNumber

mutual

/-- **Print** a value at a level of nesting. -/
def print (style : Style) (level : Nat) : Value → Except PrintFault String
  | .null => .ok "null"
  | .bool b => .ok (if b then "true" else "false")
  | .int n => (Decimal.whole n).mapError .whole
  | .float x => floatText style x
  | .text s => .ok (quoted style.escapes s)
  | .octets _ => .error (.kind .octets)
  | .date _ hasTime => .error (.kind (.date hasTime))
  | .pattern _ => .error (.kind .pattern)
  | .foreign name _ => .error (.kind (.foreign name))
  | .list xs => (printItems style (level + 1) xs).map (bracketed style level "[" "]")
  | .tuple xs => (printItems style (level + 1) xs).map (bracketed style level "[" "]")
  | .object fs => (printFields style (level + 1) fs).map (bracketed style level "\x7b" "\x7d")

/-- Print items. -/
def printItems (style : Style) (level : Nat) : List Value → Except PrintFault (List String)
  | [] => .ok []
  | v :: rest =>
    match print style level v with
    | .error e => .error e
    | .ok s => (printItems style level rest).map (s :: ·)

/-- Print fields. -/
def printFields (style : Style) (level : Nat) :
    List (String × Value) → Except PrintFault (List String)
  | [] => .ok []
  | (k, v) :: rest =>
    match print style level v with
    | .error e => .error e
    | .ok s =>
      (printFields style level rest).map ((quoted style.escapes k ++ style.keyMark ++ s) :: ·)

end

/-- A value as a document in a style. -/
def write (style : Style) (v : Value) : Except PrintFault String := print style 0 v

end CallTree.Json
