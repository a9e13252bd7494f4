/-
# CallTree.Text.CharacterName.Run — how tables of character names are written.

Characters that follow one another tend to have names that share words, so a table gives each name
by what it keeps of the name before it. The names are capital letters, digits, hyphens and blanks,
and none starts with a digit; hence a digit, a tilde and a semicolon are free to be marks.
-/
import CallTree.Text.Split

namespace CallTree.Text

/-- Names of characters that follow one another, the first with code `first`. Each line holds a few
names with semicolons between them. A digit in front says how many words a name keeps from the start
of the name before it, a digit behind a tilde how many from the end of that name; the other words
are given. -/
structure NameRun where
  first : Nat
  lines : List String

/-- The words of a text. The empty text has none. -/
def words : List Char → List (List Char)
  | [] => []
  | text => split ' ' text

namespace NameRun

/-- The count in front of an entry, and the rest of the entry. -/
def keptBefore : List Char → Nat × List Char
  | [] => (0, [])
  | c :: rest => if c.isDigit then (c.toNat - '0'.toNat, rest) else (0, c :: rest)

/-- **The words of a name**, from those of the name before it and its entry. -/
def nameAfter (before : List (List Char)) (entry : List Char) : List (List Char) :=
  let (kept, rest) := keptBefore entry
  match split '~' rest with
  | [own, keptBehind] =>
    before.take kept ++ words own ++ before.drop (before.length - (keptBefore keptBehind).1)
  | _ => before.take kept ++ words rest

/-- The place of a name among entries that follow the name `before`. -/
def place? (name : List (List Char)) : (before : List (List Char)) → List (List Char) → Option Nat
  | _, [] => none
  | before, entry :: rest =>
    let next := nameAfter before entry
    if next = name then some 0 else (place? name next rest).map (· + 1)

/-- The character of the run with a name that has these words. -/
def find? (r : NameRun) (name : List (List Char)) : Option Nat :=
  (place? name [] (r.lines.flatMap (split ';' ·.toList))).map (r.first + ·)

end NameRun

end CallTree.Text
