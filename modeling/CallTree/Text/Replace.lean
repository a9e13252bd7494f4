/-
# CallTree.Text.Replace — replacing one text by another.

`replaceAll` replaces every occurrence of a text that does not overlap the one before it, from left
to right; what it puts in is not searched again. `normalLineEnds` reads the line ends that files
have.
-/

namespace CallTree.Text

/-- Replace occurrences of a text, after skipping some characters of an occurrence that has been
replaced. -/
def replaceFrom (old new : List Char) : (skip : Nat) → List Char → List Char
  | _, [] => []
  | skip + 1, _ :: rest => replaceFrom old new skip rest
  | 0, c :: rest =>
    if !old.isEmpty && old.isPrefixOf (c :: rest) then
      new ++ replaceFrom old new (old.length - 1) rest
    else c :: replaceFrom old new 0 rest

/-- **Replace** every occurrence of a text; the empty text occurs nowhere. -/
def replaceAll (old new s : String) : String :=
  String.ofList (replaceFrom old.toList new.toList 0 s.toList)

/-- A text with a line feed for every line end: a carriage return, alone or before a line feed, is
one. -/
def normalLineEnds : List Char → List Char
  | [] => []
  | '\r' :: '\n' :: rest => '\n' :: normalLineEnds rest
  | '\r' :: rest => '\n' :: normalLineEnds rest
  | c :: rest => c :: normalLineEnds rest

/-- The text of a file. -/
def ofFile (s : String) : String := String.ofList (normalLineEnds s.toList)

end CallTree.Text
