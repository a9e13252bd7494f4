/-
# CallTree.Text.Percent — percent-encoded text.

A percent sign with two hexadecimal digits stands for an octet; runs of octets and plain ASCII are
read as UTF-8 leniently. A percent sign without two digits stands for itself. Characters outside
ASCII stand for themselves and end the run of octets before them.
-/
import CallTree.Text.Utf8

namespace CallTree.Text.Percent

/-- The value of a hexadecimal digit. -/
def hexValue? (c : Char) : Option Nat :=
  if '0' ≤ c ∧ c ≤ '9' then some (c.toNat - 48)
  else if 'a' ≤ c ∧ c ≤ 'f' then some (c.toNat - 87)
  else if 'A' ≤ c ∧ c ≤ 'F' then some (c.toNat - 55)
  else none

/-- The octet of two hexadecimal digits. -/
def octet? (high low : Char) : Option UInt8 :=
  match hexValue? high, hexValue? low with
  | some h, some l => some (UInt8.ofNat (h * 16 + l))
  | _, _ => none

/-- One unit of percent-encoded text: an octet, or a character outside ASCII. -/
inductive Part where
  | octet (b : UInt8)
  | char (c : Char)

/-- Cut a text into octets and characters outside ASCII. -/
def parts : List Char → List Part
  | [] => []
  | '%' :: high :: low :: rest =>
    match octet? high low with
    | some b => .octet b :: parts rest
    | none => .octet 0x25 :: parts (high :: low :: rest)
  | c :: rest =>
    (if c.toNat < 0x80 then .octet (UInt8.ofNat c.toNat) else .char c) :: parts rest

/-- Read parts as characters; `run` holds the octets read since the last character, newest first. -/
def join (run : List UInt8) : List Part → List Char
  | [] => Utf8.decodeLossy run.reverse
  | .octet b :: rest => join (b :: run) rest
  | .char c :: rest => Utf8.decodeLossy run.reverse ++ c :: join [] rest

/-- The text that a percent-encoded text stands for. -/
def decode (s : String) : String := String.ofList (join [] (parts s.toList))

/-- Form-encoded text: percent-encoding in which a plus sign stands for a space. -/
def decodeForm (s : String) : String :=
  decode (String.ofList (s.toList.map fun c => if c = '+' then ' ' else c))

end CallTree.Text.Percent
