/-
# CallTree.Yaml.Plain — scalars without quotes.

A plain scalar goes on over spaces and line ends up to a mark that ends it: a colon before a blank, a
comment behind a blank, and inside brackets also a comma, a question mark or a bracket. It goes on in
a line below only if that is indented further than the block around it. Line ends inside are folded:
one becomes a space, and of several the first is lost.
-/
import CallTree.Yaml.Cursor

namespace CallTree.Yaml

/-- Line ends as they stand for text: one becomes a space, of several the first is lost; a separator
of Unicode stays. -/
def foldBreaks (first : Char) (more : List Char) : List Char :=
  if first ≠ '\n' then first :: more else if more.isEmpty then [' '] else more

namespace Plain

/-- A plain scalar. -/
structure Scan where
  text : List Char
  stop : Mark
  /-- Whether a line end follows, after which a key may stand. -/
  endsInBreak : Bool
  cursor : Cursor

/-- Whether a character and the one after it end a plain scalar. -/
def isEnd (inFlow : Bool) (c after : Char) : Bool :=
  isBlankOrEnd c ||
    (c = ':' && (isBlankOrEnd after || (inFlow && [',', '[', ']', '\x7b', '\x7d'].contains after))) ||
    (inFlow && [',', '?', '[', ']', '\x7b', '\x7d'].contains c)

/-- The characters in front up to an end. -/
def run (inFlow : Bool) : List Char → List Char
  | [] => []
  | c :: rest => if isEnd inFlow c (rest.head?.getD ending) then [] else c :: run inFlow rest

/-- What stands for the spaces and line ends in front, whether there is a line end, and the cursor
after them. Nothing stands for them before the mark of a document. -/
def spaces (c : Cursor) : List Char × Bool × Cursor :=
  let blanks := c.ahead (· = ' ')
  let c := c.forward blanks.length
  match c.lineEnd? with
  | none => (blanks, false, c)
  | some (first, c) =>
    let (more, c) := c.lineEnds (· = ' ')
    if c.column = 0 && c.atSeparator then ([], true, c) else (foldBreaks first more, true, c)

/-- A plain scalar from the cursor on, after the text read so far and the spaces behind it. -/
def scanFrom (inFlow : Bool) (indent : Int) :
    (fuel : Nat) → (text spaces : List Char) → (afterBreak : Bool) → (stop : Mark) → Cursor → Scan
  | 0, text, _, afterBreak, stop, c => ⟨text, stop, afterBreak, c⟩
  | fuel + 1, text, between, afterBreak, stop, c =>
    let word := run inFlow c.rest
    if c.peek = '#' || word.isEmpty then ⟨text, stop, afterBreak, c⟩
    else
      let text := text ++ between ++ word
      let c := c.forward word.length
      let stop := c.mark
      let (between, afterBreak, c) := spaces c
      if between.isEmpty || c.peek = '#' || (!inFlow && (c.column : Int) < indent) then
        ⟨text, stop, afterBreak, c⟩
      else scanFrom inFlow indent fuel text between afterBreak stop c

/-- **The plain scalar in front**, in a block whose indentation is one less than `indent`. -/
def scan (inFlow : Bool) (indent : Int) (c : Cursor) : Scan :=
  scanFrom inFlow indent c.rest.length [] [] false c.mark c

end Plain

end CallTree.Yaml
