/-
# CallTree.Yaml.Block — scalars in blocks of lines.

A bar in front of a block keeps its line ends; an angle bracket folds those between two lines that
are not indented further than the block. Behind the mark stand, in any order, the indentation of the
block and what happens to the line ends after it: by default one is kept, a hyphen drops it and a
plus sign keeps them all. Without an indentation that of the first line with text counts.
-/
import CallTree.Yaml.Fault

namespace CallTree.Yaml.Block

/-- What happens to the line ends after a block. -/
inductive Chomping where
  | clip
  | strip
  | keep
  deriving DecidableEq, Repr

/-- What stands behind the mark of a block. -/
structure Header where
  chomping : Chomping := .clip
  indentation : Option Nat := none
  deriving DecidableEq, Repr

/-- A fault in a block that begins at `start`. -/
def refuse {α : Type} (start : Mark) (problem : Problem) (c : Cursor) : Except Fault α :=
  .error (.misread ⟨.token, some .blockScalar, some start, problem, c.mark⟩)

/-- The sign for the line ends in front, if there is one, and the cursor after it. -/
def chomping? (c : Cursor) : Option (Chomping × Cursor) :=
  if c.peek = '+' then some (.keep, c.next)
  else if c.peek = '-' then some (.strip, c.next)
  else none

/-- The indentation in front, if there is one, and the cursor after it. -/
def indentation? (start : Mark) (c : Cursor) : Except Fault (Option Nat × Cursor) :=
  if c.peek = '0' then refuse start .zeroIndent c
  else if c.peek.isDigit then .ok (some (c.peek.toNat - '0'.toNat), c.next)
  else .ok (none, c)

/-- What stands behind the mark of a block, and the cursor at the first line after it. -/
def header (start : Mark) (c : Cursor) : Except Fault (Header × Cursor) := do
  let (found, c) ← match chomping? c with
    | some (chomping, c) =>
      let (indentation, c) ← indentation? start c
      pure ({ chomping, indentation : Header }, c)
    | none =>
      let (indentation, c) ← indentation? start c
      match indentation, chomping? c with
      | some _, some (chomping, c) => pure ({ chomping, indentation : Header }, c)
      | _, _ => pure ({ indentation : Header }, c)
  if !isSpaceOrEnd c.peek then
    refuse start (.expected "chomping or indentation indicators" c.peek) c
  else
    let c := c.skipComment
    if !endsLine c.peek then refuse start (.expected "a comment or a line break" c.peek) c
    else return (found, (c.lineEnd?.map Prod.snd).getD c)

/-- The line ends in front of the first line with text, the column that its indentation reaches, and
the cursor there. -/
def leading : (fuel : Nat) → Cursor → List Char × Nat × Cursor
  | 0, c => ([], 0, c)
  | fuel + 1, c =>
    if c.peek = ' ' then
      let (ds, reached, last) := leading fuel c.next
      (ds, max reached c.next.column, last)
    else
      match c.lineEnd? with
      | none => ([], 0, c)
      | some (d, c) =>
        let (ds, reached, last) := leading fuel c
        (d :: ds, reached, last)

/-- The cursor after spaces, at most up to a column. -/
def indent (column : Nat) (c : Cursor) : Cursor :=
  c.forward (min (c.ahead (· = ' ')).length (column - c.column))

/-- The line ends in front, each with an indentation up to a column after it, and the cursor behind
them. -/
def breaks (column : Nat) : (fuel : Nat) → Cursor → List Char × Cursor
  | 0, c => ([], indent column c)
  | fuel + 1, c =>
    let c := indent column c
    match c.lineEnd? with
    | none => ([], c)
    | some (d, c) =>
      let (ds, c) := breaks column fuel c
      (d :: ds, c)

/-- The lines of a block that is indented to a column: their text, the last line end, the line ends
after it, and the cursor behind them. `before` are the line ends before the next line. -/
def lines (folded : Bool) (column : Nat) :
    (fuel : Nat) → (before : List Char) → Cursor → List Char × Option Char × List Char × Cursor
  | 0, before, c => ([], none, before, c)
  | fuel + 1, before, c =>
    if c.column ≠ column || c.peek = ending then ([], none, before, c)
    else
      let isText := !isGap c.peek
      let line := c.ahead (!endsLine ·)
      let c := c.forward line.length
      let (lineEnd, c) := match c.lineEnd? with
        | some (d, c) => (some d, c)
        | none => (none, c)
      let (after, c) := breaks column c.rest.length c
      if c.column = column && c.peek ≠ ending then
        let between :=
          if folded && lineEnd = some '\n' && isText && !isGap c.peek then
            (if after.isEmpty then [' '] else [])
          else lineEnd.toList
        let (text, rest) := lines folded column fuel after c
        (before ++ line ++ between ++ text, rest)
      else (before ++ line, lineEnd, after, c)

/-- **The block scalar in front**, inside a block of the given indentation, and the cursor after it.
-/
def scan (outer : Int) (c : Cursor) : Except Fault (List Char × Cursor) := do
  let start := c.mark
  let (header, body) ← header start c.next
  let least := (max 1 (outer + 1)).toNat
  let (before, column, first) :=
    match header.indentation with
    | none =>
      let (before, reached, first) := leading body.rest.length body
      (before, max least reached, first)
    | some n =>
      let column := least + n - 1
      let (before, first) := breaks column body.rest.length body
      (before, column, first)
  let (text, lineEnd, after, last) := lines (c.peek = '>') column first.rest.length before first
  let tail :=
    match header.chomping with
    | .strip => []
    | .clip => lineEnd.toList
    | .keep => lineEnd.toList ++ after
  return (text ++ tail, last)

end CallTree.Yaml.Block
