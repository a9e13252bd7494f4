/-
# CallTree.Yaml.Printer — settings files as they are written.

Every entry of a mapping and every item of a list has a line of its own; a list under a key stands
at the indentation of the key. A text is written plainly if it reads back as itself, else in single
quotes, and in double quotes with escapes if it holds anything but printable ASCII. A scalar that
runs past the eightieth column is broken at a space. Octets are written to the base 64, as a block
with a tag.
-/
import CallTree.Number.Decimal
import CallTree.Text.Base64
import CallTree.Text.Quoted
import CallTree.Value.Literal
import CallTree.Yaml.Scalar

namespace CallTree.Yaml

/-- The column after which a scalar is broken. -/
def bestWidth : Nat := 80

/-- A line end with an indentation after it. -/
def newLine (indent : Nat) : List Char := '\n' :: List.replicate indent ' '

/-! ## Styles -/

/-- The marks that may not start a plain scalar. -/
def isLeadingMark (c : Char) : Bool :=
  ['#', ',', '[', ']', '\x7b', '\x7d', '&', '*', '!', '|', '>', '\'', '\x22', '%', '@',
    Char.ofNat 0x60].contains c

/-- Whether a text starts with the mark of a document's start or end. -/
def startsWithDocumentMark (cs : List Char) : Bool :=
  cs.take 3 = ['-', '-', '-'] || cs.take 3 = ['.', '.', '.']

/-- A character after which a mark counts. -/
def isSeparator (c : Char) : Bool :=
  c = ' ' || c = '\t' || c = '\r' || c = '\n' || c.toNat = 0 || c.toNat = 0x85 ||
    c.toNat = 0x2028 || c.toNat = 0x2029

/-- Whether a colon before a blank, or a comment mark after one, occurs in a text. -/
def hasInnerMark : (afterSpace : Bool) → List Char → Bool
  | _, [] => false
  | afterSpace, c :: rest =>
    (c = ':' && rest.head?.all isSeparator) || (c = '#' && afterSpace) ||
      hasInnerMark (isSeparator c) rest

/-- Whether the marks in a text forbid to write it plainly. -/
def hasMarks (cs : List Char) : Bool :=
  startsWithDocumentMark cs ||
    match cs with
    | [] => false
    | c :: rest =>
      isLeadingMark c ||
        ((c = '?' || c = ':' || c = '-') && rest.head?.all isSeparator) ||
        hasInnerMark (isSeparator c) rest

/-- Whether a character needs an escape: neither printable ASCII nor a line end. -/
def isSpecial (c : Char) : Bool := !(c = '\n' || (0x20 ≤ c.toNat && c.toNat ≤ 0x7e))

/-- Whether one of two characters stands directly before the other in a text. -/
def hasPair (a b : Char) : List Char → Bool
  | c :: d :: rest => (c = a && d = b) || hasPair a b (d :: rest)
  | _ => false

/-- Whether a text starts or ends with a blank or a line end. -/
def hasOuterSpace (cs : List Char) : Bool :=
  let isEdge (c : Char) : Bool := c = ' ' || c = '\n'
  cs.head?.any isEdge || cs.getLast?.any isEdge

/-- Whether a text may be written plainly. -/
def allowsPlain (s : String) : Bool :=
  let cs := s.toList
  !cs.any isSpecial && !cs.contains '\n' && !hasOuterSpace cs && !hasMarks cs && isPlainText s

/-- Whether a text may be written in single quotes. -/
def allowsSingle (s : String) : Bool :=
  let cs := s.toList
  !cs.any isSpecial && !hasPair ' ' '\n' cs && !hasPair '\n' ' ' cs

/-! ## Scalars -/

/-- The runs of a text: characters of which the class `p` is the same stand together. -/
def runs (p : Char → Nat) : List Char → List (List Char)
  | [] => []
  | c :: rest =>
    match runs p rest with
    | (d :: run) :: more =>
      if p c = p d then (c :: d :: run) :: more else [c] :: (d :: run) :: more
    | other => [c] :: other

/-- The class of a character for breaking: spaces, line ends, all others. -/
def breakClass (c : Char) : Nat := if c = ' ' then 1 else if c = '\n' then 2 else 0

/-- The runs of a scalar from a column on. A single space past the best width becomes a line end,
unless the text starts or ends with it; a line end inside is written twice. -/
def writeRuns (indent : Nat) (escape : List Char → List Char) :
    (column : Nat) → (first : Bool) → List (List Char) → List Char
  | _, _, [] => []
  | column, first, run :: rest =>
    if run = [' '] && bestWidth < column && !first && !rest.isEmpty then
      newLine indent ++ writeRuns indent escape indent false rest
    else if run.contains '\n' then
      '\n' :: run ++ List.replicate indent ' ' ++ writeRuns indent escape indent false rest
    else
      let out := escape run
      out ++ writeRuns indent escape (column + out.length) false rest

/-- A plain scalar. -/
def writePlain (indent column : Nat) (s : String) : List Char :=
  writeRuns indent id column true (runs breakClass s.toList)

/-- A scalar in single quotes; a quote inside is written twice. -/
def writeSingle (indent column : Nat) (s : String) : List Char :=
  let twice (run : List Char) : List Char :=
    run.flatMap fun c => if c = '\'' then ['\'', '\''] else [c]
  '\'' :: writeRuns indent twice (column + 1) true (runs breakClass s.toList) ++ ['\'']

/-- The escapes of one character. -/
def shortEscapes : List (Nat × Char) :=
  [(0, '0'), (7, 'a'), (8, 'b'), (9, 't'), (10, 'n'), (11, 'v'), (12, 'f'), (13, 'r'), (0x1b, 'e'),
    (0x22, '\x22'), (0x5c, '\\'), (0x85, 'N'), (0xa0, '_'), (0x2028, 'L'), (0x2029, 'P')]

/-- Hexadecimal digits in capitals. -/
def capitalHex (width n : Nat) : List Char := (Text.Quoted.hex width n).map Char.toUpper

/-- The escape of a character, if it needs one. -/
def escape? (c : Char) : Option (List Char) :=
  if c ≠ '\x22' && c ≠ '\\' && 0x20 ≤ c.toNat && c.toNat ≤ 0x7e then none
  else
    match shortEscapes.lookup c.toNat with
    | some e => some ['\\', e]
    | none =>
      some (if c.toNat ≤ 0xff then '\\' :: 'x' :: capitalHex 2 c.toNat
        else if c.toNat ≤ 0xffff then '\\' :: 'u' :: capitalHex 4 c.toNat
        else '\\' :: 'U' :: capitalHex 8 c.toNat)

/-- The characters of a scalar in double quotes. `pending` are those that are not yet written since
the last place where the scalar may be broken: after an escape, or before a space. A broken line
ends with a backslash, and so starts the next one if a space would be lost. -/
def doubleChars (indent : Nat) :
    (index column : Nat) → (pending : List Char) → List Char → List Char
  | _, _, pending, [] => pending
  | index, column, pending, c :: rest =>
    let mayBreak := index ≠ 0 && !rest.isEmpty
    match escape? c with
    | some e =>
      let written := pending ++ e
      let column := column + written.length
      if mayBreak && bestWidth + 1 < column then
        let mark := if rest.head? = some ' ' then ['\\'] else []
        written ++ '\\' :: newLine indent ++ mark ++
          doubleChars indent (index + 1) (indent + mark.length) [] rest
      else written ++ doubleChars indent (index + 1) column [] rest
    | none =>
      if mayBreak && (c = ' ' || pending.isEmpty) && bestWidth < column + pending.length then
        let mark := if c = ' ' then ['\\'] else []
        pending ++ '\\' :: newLine indent ++ mark ++
          doubleChars indent (index + 1) (indent + mark.length) [c] rest
      else doubleChars indent (index + 1) column (pending ++ [c]) rest

/-- A scalar in double quotes. -/
def writeDouble (indent column : Nat) (s : String) : List Char :=
  '\x22' :: doubleChars indent 0 (column + 1) [] s.toList ++ ['\x22']

/-- A text in the first style that may be used. -/
def writeText (indent column : Nat) (s : String) : List Char :=
  if allowsPlain s then writePlain indent column s
  else if allowsSingle s then writeSingle indent column s
  else writeDouble indent column s

/-- The text of a floating-point number. A mantissa without a point gets one. -/
def floatText (x : Binary64) : List Char :=
  match x with
  | .nan => ".nan".toList
  | .infinite true => "-.inf".toList
  | .infinite false => ".inf".toList
  | .finite _ _ =>
    let cs := (Decimal.message x).toList
    if cs.contains '.' then cs
    else cs.flatMap fun c => if c = 'e' then ".0e".toList else [c]

/-- So many octets are written in one line. -/
def octetsInLine : Nat := 57

/-- The lines of octets that are written to the base 64. -/
def octetLines (indent : Nat) : (fuel : Nat) → List UInt8 → List Char
  | 0, _ => []
  | fuel + 1, bs =>
    if bs.isEmpty then []
    else
      newLine indent ++ Text.Base64.encode (bs.take octetsInLine) ++
        octetLines indent fuel (bs.drop octetsInLine)

/-- Octets, with their tag. -/
def writeOctets (indent : Nat) (bs : List UInt8) : List Char :=
  "!!binary ".toList ++ if bs.isEmpty then ['\x22', '\x22'] else '|' :: octetLines indent bs.length bs

/-! ## Layout -/

/-- The text of a scalar; values with parts have none here. -/
def scalarText (indent column : Nat) : Value → List Char
  | .null => "null".toList
  | .bool b => (if b then "true" else "false").toList
  | .int n => (toString n).toList
  | .float x => floatText x
  | .text s => writeText indent column s
  | .octets bs => writeOctets indent bs
  | .date s _ => s.toList
  | _ => []

mutual

/-- What stands after the mark of a list item at an indentation. -/
def item (indent : Nat) : Value → List Char
  | .list (v :: rest) => ' ' :: '-' :: item (indent + 2) v ++ items (indent + 2) rest
  | .tuple (v :: rest) => ' ' :: '-' :: item (indent + 2) v ++ items (indent + 2) rest
  | .list [] => " []".toList
  | .tuple [] => " []".toList
  | .object [] => " \x7b\x7d".toList
  | .object ((k, v) :: rest) =>
    ' ' :: k.toList ++ ':' :: entry (indent + 2) (indent + 3 + k.length) v ++
      entries (indent + 2) rest
  | v => ' ' :: scalarText (indent + 2) (indent + 2) v

/-- Further list items, each on a line of its own. -/
def items (indent : Nat) : List Value → List Char
  | [] => []
  | v :: rest => newLine indent ++ '-' :: item indent v ++ items indent rest

/-- What stands after the colon of a key at an indentation; the colon ends at a column. -/
def entry (indent column : Nat) : Value → List Char
  | .list (v :: rest) => newLine indent ++ '-' :: item indent v ++ items indent rest
  | .tuple (v :: rest) => newLine indent ++ '-' :: item indent v ++ items indent rest
  | .list [] => " []".toList
  | .tuple [] => " []".toList
  | .object [] => " \x7b\x7d".toList
  | .object ((k, v) :: rest) =>
    newLine (indent + 2) ++ k.toList ++ ':' :: entry (indent + 2) (indent + 3 + k.length) v ++
      entries (indent + 2) rest
  | v => ' ' :: scalarText (indent + 2) (column + 1) v

/-- Further entries, each on a line of its own. -/
def entries (indent : Nat) : List (String × Value) → List Char
  | [] => []
  | (k, v) :: rest =>
    newLine indent ++ k.toList ++ ':' :: entry indent (indent + k.length + 1) v ++
      entries indent rest

end

/-- The text of a table. -/
def layout : Table Value → String
  | [] => "\x7b\x7d\n"
  | (k, v) :: rest =>
    String.ofList (k.toList ++ ':' :: entry 0 (k.length + 1) v ++ entries 0 rest ++ ['\n'])

/-- **Print** a table as a settings file. All whole numbers in it are written before anything is laid out, as
for a literal; so one that cannot be written is the fault. -/
def print (data : Table Value) : Except Decimal.Fault String :=
  (Value.object data).literal.map fun _ => layout data

end CallTree.Yaml
