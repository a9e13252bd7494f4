/-
# CallTree.Text.Quoted — quoted texts and octet strings in messages.

Messages that show a value put texts in single quotes, or in double quotes if the text holds a
single quote and no double quote. The quote, the backslash, the tab and the two line ends are
escaped by a backslash; every other character that is not printable by its code.
-/
import CallTree.Text.Printable

namespace CallTree.Text.Quoted

/-- A number in lower-case hexadecimal digits, padded with zeros to a width. -/
def hex (width n : Nat) : List Char :=
  let digits := Nat.toDigits 16 n
  List.replicate (width - digits.length) '0' ++ digits

/-- The quote character for a text: double only if that avoids escapes. -/
def quoteFor (cs : List Char) : Char :=
  if cs.contains '\x27' && !cs.contains '"' then '"' else '\x27'

/-- The escapes that texts and octet strings share. -/
def plainEscape? (quote c : Char) : Option (List Char) :=
  if c = quote || c = '\\' then some ['\\', c]
  else if c = '\t' then some ['\\', 't']
  else if c = '\n' then some ['\\', 'n']
  else if c = '\r' then some ['\\', 'r']
  else none

/-- The escape of a character by its code. -/
def escapedCode (c : Char) : List Char :=
  if c.toNat < 0x100 then '\\' :: 'x' :: hex 2 c.toNat
  else if c.toNat < 0x10000 then '\\' :: 'u' :: hex 4 c.toNat
  else '\\' :: 'U' :: hex 8 c.toNat

/-- A character as it stands between the quotes of a text. -/
def textChar (quote c : Char) : List Char :=
  match plainEscape? quote c with
  | some escape => escape
  | none => if isPrintable c then [c] else escapedCode c

/-- A text in quotes. -/
def text (s : String) : String :=
  let cs := s.toList
  let quote := quoteFor cs
  String.ofList (quote :: cs.flatMap (textChar quote) ++ [quote])

/-- An octet as it stands between the quotes of an octet string. -/
def octetChars (quote : Char) (b : UInt8) : List Char :=
  let c := Char.ofNat b.toNat
  match plainEscape? quote c with
  | some escape => escape
  | none => if 0x20 ≤ b && b < 0x7f then [c] else '\\' :: 'x' :: hex 2 b.toNat

/-- An octet string in quotes, marked by a leading `b`. -/
def octets (bs : List UInt8) : String :=
  let quote := quoteFor (bs.map fun b => Char.ofNat b.toNat)
  String.ofList ('b' :: quote :: bs.flatMap (octetChars quote) ++ [quote])

end CallTree.Text.Quoted
