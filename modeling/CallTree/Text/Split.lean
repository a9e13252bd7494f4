/-
# CallTree.Text.Split — the parts of a text between separators.

A text with `n` separators has `n + 1` parts, of which any may be empty.

Lines are the parts between line feeds: positions count characters from zero, lines and columns count
from one, and a line feed belongs to the line that it ends.
-/

namespace CallTree.Text

/-- **The parts between separators.** -/
def split (separator : Char) : List Char → List (List Char)
  | [] => [[]]
  | c :: rest =>
    if c = separator then [] :: split separator rest
    else
      match split separator rest with
      | [] => [[c]]
      | part :: more => (c :: part) :: more

/-- Parts with a separator between each two. -/
def join (separator : Char) : List (List Char) → List Char
  | [] => []
  | [part] => part
  | part :: rest => part ++ separator :: join separator rest

/-- Line and column of a position. -/
def lineAndColumn (cs : List Char) (position : Nat) : Nat × Nat :=
  let before := cs.take position
  (before.count '\n' + 1, (before.reverse.takeWhile (· ≠ '\n')).length + 1)

end CallTree.Text
