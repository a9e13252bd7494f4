/-
# CallTree.Text.Latin — texts in which every character is one octet.

Octets that nobody has decoded yet are kept as a text of the characters with the same numbers. A
text in a message travels as its UTF-8 octets and is kept in this way (`carried`); what was ASCII
looks the same.
-/
import CallTree.Text.Quoted
import CallTree.Text.Utf8

namespace CallTree.Text.Latin

/-- Octets as characters, one for each. -/
def ofOctets (bs : List UInt8) : String := String.ofList (bs.map fun b => Char.ofNat b.toNat)

/-- The octets of characters; a character beyond the octets is cut to its last eight bits. -/
def octets (s : String) : List UInt8 := s.toList.map fun c => UInt8.ofNat c.toNat

/-- Whether a character is an octet. -/
def isOctet (c : Char) : Bool := c.toNat < 0x100

/-- A text as a message carries it. -/
def carried (s : String) : String := ofOctets (Utf8.encode s)

/-- The text that a message carries, with a replacement character for what is none. -/
def delivered (s : String) : String := String.ofList (Utf8.decodeLossy (octets s))

/-! ## Texts with other characters -/

/-- The first characters of a text that are no octets: where they start, and they themselves. -/
structure Fault where
  position : Nat
  characters : List Char
  deriving DecidableEq, Repr

/-- A character by its number, as a fault shows it. -/
def shown (c : Char) : String :=
  if c.toNat < 0x10000 then String.ofList ('\\' :: 'u' :: Quoted.hex 4 c.toNat)
  else String.ofList ('\\' :: 'U' :: Quoted.hex 8 c.toNat)

/-- The sentence that reports a fault. -/
def Fault.message (f : Fault) : String :=
  let place :=
    match f.characters with
    | [c] => "character '" ++ shown c ++ "' in position " ++ toString f.position
    | cs => "characters in position " ++ toString f.position ++ "-" ++
        toString (f.position + cs.length - 1)
  "'latin-1' codec can't encode " ++ place ++ ": ordinal not in range(256)"

/-- A text, unless it has characters that are no octets. -/
def check (s : String) : Except Fault String :=
  let before := s.toList.takeWhile isOctet
  match (s.toList.drop before.length).takeWhile fun c => !isOctet c with
  | [] => .ok s
  | cs => .error ⟨before.length, cs⟩

end CallTree.Text.Latin
