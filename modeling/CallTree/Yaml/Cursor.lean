/-
# CallTree.Yaml.Cursor — places in a document, and a cursor that moves over it.

Lines and columns count from zero. A line ends at a line feed or carriage return, at the next-line
character, or at one of the two separators of Unicode; a mark of the byte order takes no column.
Past its end a document goes on with the null character, which no document holds.
-/

namespace CallTree.Yaml

/-- A place in a document: how many characters are before it, its line and its column. -/
structure Mark where
  index : Nat := 0
  line : Nat := 0
  column : Nat := 0
  deriving DecidableEq, Repr, Inhabited

/-! ## Classes of characters -/

/-- What stands after the last character of a document. -/
def ending : Char := Char.ofNat 0

/-- Whether a character ends a line. -/
def isBreak (c : Char) : Bool :=
  c = '\n' || c = '\r' || c.toNat = 0x85 || c.toNat = 0x2028 || c.toNat = 0x2029

/-- Whether a line or the document ends here. -/
def endsLine (c : Char) : Bool := c = ending || isBreak c

/-- Whether a space may stand here, a line end, or the end of the document. -/
def isSpaceOrEnd (c : Char) : Bool := c = ' ' || endsLine c

/-- Whether a mark before this character counts: a blank, a line end, or the end of the document. -/
def isBlankOrEnd (c : Char) : Bool := c = '\t' || isSpaceOrEnd c

/-- A blank within a line. -/
def isGap (c : Char) : Bool := c = ' ' || c = '\t'

/-- The characters of names: ASCII letters and digits, hyphens and low lines. -/
def isNameChar (c : Char) : Bool := c.isAlphanum || c = '-' || c = '_'

/-- A line end as it is read: a separator of Unicode stays, all others become a line feed. -/
def lineEndOf (c : Char) : Char := if c.toNat = 0x2028 || c.toNat = 0x2029 then c else '\n'

/-- The line ends among characters. -/
def lineEndsOf : List Char → List Char
  | [] => []
  | '\r' :: '\n' :: rest => '\n' :: lineEndsOf rest
  | c :: rest => if isBreak c then lineEndOf c :: lineEndsOf rest else lineEndsOf rest

/-! ## The cursor -/

/-- **`Cursor`** — what is left of a document, and where that begins. -/
structure Cursor where
  rest : List Char
  mark : Mark := {}

namespace Cursor

/-- The character that many places ahead. -/
def peek (c : Cursor) (ahead : Nat := 0) : Char := (c.rest[ahead]?).getD ending

/-- The column at which the cursor stands. -/
def column (c : Cursor) : Nat := c.mark.column

/-- The cursor one character further; at the end it stays. -/
def next (c : Cursor) : Cursor :=
  match c.rest with
  | [] => c
  | d :: rest =>
    let m := { c.mark with index := c.mark.index + 1 }
    let mark : Mark :=
      if isBreak d && !(d = '\r' && rest.head? = some '\n') then
        { m with line := m.line + 1, column := 0 }
      else if d = '\ufeff' then m
      else { m with column := m.column + 1 }
    { rest, mark }

/-- The cursor that many characters further. -/
def forward : (count : Nat) → Cursor → Cursor
  | 0, c => c
  | count + 1, c => forward count c.next

/-- The characters in front that satisfy `p`. -/
def ahead (p : Char → Bool) (c : Cursor) : List Char := c.rest.takeWhile p

/-- The cursor after the characters in front that satisfy `p`. -/
def skip (p : Char → Bool) (c : Cursor) : Cursor := c.forward (c.ahead p).length

/-- The line end in front, if there is one, and the cursor after it. -/
def lineEnd? (c : Cursor) : Option (Char × Cursor) :=
  match c.rest with
  | '\r' :: '\n' :: _ => some ('\n', c.forward 2)
  | d :: _ => if isBreak d then some (lineEndOf d, c.next) else none
  | [] => none

/-- The line ends in front, between which characters that satisfy `p` may stand, and the cursor
after all of them. -/
def lineEnds (p : Char → Bool) (c : Cursor) : List Char × Cursor :=
  let run := c.ahead fun d => p d || isBreak d
  (lineEndsOf run, c.forward run.length)

/-- The cursor after spaces, and after a comment if there is one behind them. -/
def skipComment (c : Cursor) : Cursor :=
  let c := c.skip (· = ' ')
  if c.peek = '#' then c.skip (!endsLine ·) else c

/-- Whether the mark of a document's start or end stands in front, such as three hyphens. -/
def hasSeparator (mark : Char) (c : Cursor) : Bool :=
  c.rest.take 3 = [mark, mark, mark] && isBlankOrEnd (c.peek 3)

/-- Whether either mark of a document stands in front. -/
def atSeparator (c : Cursor) : Bool := c.hasSeparator '-' || c.hasSeparator '.'

end Cursor

end CallTree.Yaml
