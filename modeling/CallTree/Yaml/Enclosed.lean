/-
# CallTree.Yaml.Enclosed — scalars in quotes.

In single quotes a quote is written twice and nothing else is special. In double quotes a backslash
starts an escape, and a backslash before a line end joins the lines. Line ends inside are folded as
in plain scalars (`CallTree.Yaml.foldBreaks`), and blanks around them are lost. The mark of a
document may not stand at the beginning of a line inside.
-/
import CallTree.Yaml.Fault
import CallTree.Yaml.Plain

namespace CallTree.Yaml.Enclosed

/-- The escapes of one character. -/
def escapes : List (Char × Nat) :=
  [('0', 0), ('a', 7), ('b', 8), ('t', 9), ('\t', 9), ('n', 10), ('v', 11), ('f', 12), ('r', 13),
    ('e', 0x1b), (' ', 0x20), ('\x22', 0x22), ('\\', 0x5c), ('/', 0x2f), ('N', 0x85), ('_', 0xa0),
    ('L', 0x2028), ('P', 0x2029)]

/-- The escapes by code, with their number of hexadecimal digits. -/
def codeEscapes : List (Char × Nat) := [('x', 2), ('u', 4), ('U', 8)]

/-- Whether a character is a hexadecimal digit. -/
def isHex (c : Char) : Bool := (Text.Percent.hexValue? c).isSome

/-- A fault in a scalar in double quotes that begins at `start`. -/
def refuseEscape {α : Type} (start : Mark) (problem : Problem) (c : Cursor) : Except Fault α :=
  .error (.misread ⟨.token, some .doubleQuoted, some start, problem, c.mark⟩)

/-- A fault in a scalar in quotes that begins at `start`. -/
def refuse {α : Type} (start : Mark) (problem : Problem) (c : Cursor) : Except Fault α :=
  .error (.misread ⟨.token, some .quoted, some start, problem, c.mark⟩)

/-- The character of an escape by code, of which `size` digits are in front. -/
def escapedCode (start : Mark) (size : Nat) (c : Cursor) : Except Fault (Char × Cursor) :=
  match (List.range size).find? fun k => !isHex (c.peek k) with
  | some k =>
    refuseEscape start
      (.expected ("escape sequence of " ++ toString size ++ " hexadecimal numbers") (c.peek k)) c
  | none =>
    let code := (c.rest.take size).foldl
      (fun n d => n * 16 + (Text.Percent.hexValue? d).getD 0) 0
    if 0x10ffff < code then .error (.code code) else .ok (Char.ofNat code, c.forward size)

/-- The line ends in front with the blanks around them, and the cursor after them. -/
def breaks (start : Mark) : (fuel : Nat) → Cursor → Except Fault (List Char × Cursor)
  | 0, c => .ok ([], c)
  | fuel + 1, c =>
    if c.atSeparator then refuse start .separator c
    else
      let c := c.skip isGap
      match c.lineEnd? with
      | none => .ok ([], c)
      | some (d, c) => (breaks start fuel c).map fun (ds, c) => (d :: ds, c)

/-- What stands for the blanks and line ends in front, and the cursor after them. -/
def spaces (start : Mark) (c : Cursor) : Except Fault (List Char × Cursor) :=
  let blanks := c.ahead isGap
  let c := c.forward blanks.length
  if c.peek = ending then refuse start .endOfDocument c
  else
    match c.lineEnd? with
    | none => .ok (blanks, c)
    | some (first, c) =>
      (breaks start (c.rest.length + 1) c).map fun (more, c) => (foldBreaks first more, c)

/-- What an escape in front stands for, its backslash taken, and the cursor after it. -/
def escaped (start : Mark) (c : Cursor) : Except Fault (List Char × Cursor) :=
  match escapes.lookup c.peek, codeEscapes.lookup c.peek, c.lineEnd? with
  | some code, _, _ => .ok ([Char.ofNat code], c.next)
  | none, some size, _ => (escapedCode start size c.next).map fun (d, c) => ([d], c)
  | none, none, some (_, c) => breaks start (c.rest.length + 1) c
  | none, none, none => refuseEscape start (.unknownEscape c.peek) c

/-- The text up to the closing quote, and the cursor after that. -/
def scanFrom (quote : Char) (start : Mark) :
    (fuel : Nat) → Cursor → Except Fault (List Char × Cursor)
  | 0, c => refuse start .endOfDocument c
  | fuel + 1, c =>
    let isDouble := quote = '\x22'
    let step : Except Fault (Option (List Char × Cursor)) :=
      if !isDouble && c.peek = quote && c.peek 1 = quote then .ok (some ([quote], c.forward 2))
      else if c.peek = quote then .ok none
      else if isDouble && c.peek = '\\' then (escaped start c.next).map some
      else if c.peek = ending || isGap c.peek || isBreak c.peek then (spaces start c).map some
      else .ok (some ([c.peek], c.next))
    match step with
    | .error f => .error f
    | .ok none => .ok ([], c.next)
    | .ok (some (cs, c)) => (scanFrom quote start fuel c).map fun (ds, c) => (cs ++ ds, c)

/-- **The scalar in quotes in front**, and the cursor after it. -/
def scan (c : Cursor) : Except Fault (List Char × Cursor) :=
  scanFrom c.peek c.mark (c.rest.length + 1) c.next

end CallTree.Yaml.Enclosed
