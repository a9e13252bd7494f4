/-
# CallTree.Text.Blank — blank characters at the ends of a text.

Three different sets are called blank in this library, and none may stand in for another:

* `isBlank`, for text that people write (settings, call trees sent as text): the separators and
  white space of Unicode, the four information separators of ASCII included;
* `isBlankOctet`, for raw request bodies: the six ASCII blanks;
* the four blanks of the data format, which its reader keeps to itself.
-/

namespace CallTree.Text

/-- Blank characters of any script. -/
def isBlank (c : Char) : Bool :=
  let n := c.toNat
  (0x09 ≤ n && n ≤ 0x0d) || (0x1c ≤ n && n ≤ 0x20) || n = 0x85 || n = 0xa0 || n = 0x1680 ||
    (0x2000 ≤ n && n ≤ 0x200a) || n = 0x2028 || n = 0x2029 || n = 0x202f || n = 0x205f ||
    n = 0x3000

/-- Blank octets: tab, line feed, vertical tab, form feed, carriage return and space. -/
def isBlankOctet (b : UInt8) : Bool := (0x09 ≤ b && b ≤ 0x0d) || b = 0x20

/-- Drop what satisfies `p` from the end of a list. -/
def dropEndWhile {α : Type} (p : α → Bool) (xs : List α) : List α :=
  (xs.reverse.dropWhile p).reverse

/-- Drop what satisfies `p` from both ends of a list. -/
def trimWhile {α : Type} (p : α → Bool) (xs : List α) : List α := dropEndWhile p (xs.dropWhile p)

/-- A text without the blanks at its ends. -/
def strip (s : String) : String := String.ofList (trimWhile isBlank s.toList)

/-- Trimming leaves nothing to trim at the front. -/
theorem head?_dropWhile_not (p : Char → Bool) (cs : List Char) :
    ∀ c ∈ (cs.dropWhile p).head?, p c = false := by
  induction cs with
  | nil => simp
  | cons a rest ih =>
    by_cases h : p a = true
    · simpa [List.dropWhile, h] using ih
    · simp [List.dropWhile, h]

end CallTree.Text
