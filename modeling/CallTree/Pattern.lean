/-
# CallTree.Pattern — search patterns that are ready for use.

A pattern is kept with the text it was read from. Patterns of octets can be read, and so can stand
in a condition, but they search no text: asking one to do so is a fault.
-/
import CallTree.Pattern.Matcher
import CallTree.Pattern.Reader

namespace CallTree

/-- **`Pattern`** — a pattern with its source. -/
structure Pattern where
  isText : Bool
  source : List Char
  flags : Pattern.Flags
  tree : Pattern.Regex
  deriving DecidableEq, Repr

namespace Pattern

/-- Read a pattern of text. -/
def ofText (s : String) : Except Fault Pattern :=
  (read true s.toList).map fun (tree, flags) => ⟨true, s.toList, flags, tree⟩

/-- Read a pattern of octets; each octet is the character of its number. -/
def ofOctets (bs : List UInt8) : Except Fault Pattern :=
  let cs := bs.map fun b => Char.ofNat b.toNat
  (read false cs).map fun (tree, flags) => ⟨false, cs, flags, tree⟩

/-- Why a pattern cannot be asked about a text. -/
inductive SearchFault where
  /-- It is a pattern of octets. -/
  | octets
  /-- It matches, but a group was opened behind the place where it was closed. -/
  | brokenSpan
  deriving DecidableEq, Repr

/-- The sentence of a search fault. -/
def SearchFault.message : SearchFault → String
  | .octets => "cannot use a bytes pattern on a string-like object"
  | .brokenSpan =>
    "The span of capturing group is wrong, please report a bug for the re module."

/-- Whether a pattern matches somewhere in a text. -/
def occursIn (p : Pattern) (s : String) : Except SearchFault Bool :=
  if p.isText then
    match search p.tree p.flags s.toList.toArray with
    | some spot => if spot.marks.allSpans then .ok true else .error .brokenSpan
    | none => .ok false
  else .error .octets

end Pattern

end CallTree
