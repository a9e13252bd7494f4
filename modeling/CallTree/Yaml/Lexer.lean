/-
# CallTree.Yaml.Lexer — tokens, one after the other.

A scalar, alias, tag or bracket may turn out to be a key only when the colon behind it is reached.
So the lexer keeps the tokens that are read but not taken, remembers for every level of brackets
where such a key may stand, and puts the token of the key there afterwards. It reads on only as far
as it has to, since a fault further on counts only when everything before it is in order.

Outside brackets the lexer compares the column of each token with the indentation of the blocks
around it, and opens and closes blocks accordingly. A key that stands where entries of the block
around it begin has to have its colon, in the same line.
-/
import CallTree.Yaml.Block
import CallTree.Yaml.Enclosed
import CallTree.Yaml.Property

namespace CallTree.Yaml

/-- A place where a key may stand: the number of its token, counted from the first one. -/
structure KeyPlace where
  token : Nat
  isRequired : Bool
  mark : Mark

/-- **`Lexer`** — what has been read and what is left. -/
structure Lexer where
  cursor : Cursor
  /-- The tokens that are not taken yet, the next one first. -/
  pending : List Lexeme := []
  /-- How many tokens have been taken. -/
  taken : Nat := 0
  /-- How many brackets are open; closing ones too many count as well. -/
  flowLevel : Int := 0
  /-- The column of the innermost block, which is outside the document if there is none. -/
  indent : Int := -1
  /-- The columns of the blocks around it. -/
  outer : List Int := []
  /-- Whether a key may start here. -/
  allowsKey : Bool := true
  /-- The places where keys may stand, by level of brackets. -/
  places : List (Int × KeyPlace) := []
  isDone : Bool := false

namespace Lexer

/-- Whether the cursor is inside brackets. -/
def inFlow (l : Lexer) : Bool := l.flowLevel ≠ 0

/-- The column of the cursor. -/
def column (l : Lexer) : Int := l.cursor.column

/-- A fault at the cursor. -/
def refuse {α : Type} (l : Lexer) (problem : Problem) (activity : Option Activity := none)
    (since : Option Mark := none) : Except Fault α :=
  .error (.misread ⟨.token, activity, since, problem, l.cursor.mark⟩)

/-- Add a token behind the pending ones. -/
def push (l : Lexer) (token : Token) (start stop : Mark) : Lexer :=
  { l with pending := l.pending ++ [⟨token, start, stop⟩] }

/-- Add a token without characters at the cursor. -/
def pushHere (l : Lexer) (token : Token) : Lexer := l.push token l.cursor.mark l.cursor.mark

/-- Add the token of the characters up to another cursor. -/
def pushTo (l : Lexer) (token : Token) (cursor : Cursor) : Lexer :=
  { l.push token l.cursor.mark cursor.mark with cursor }

/-! ## Keys -/

/-- Report a key that has to have its colon. -/
def requireColon (l : Lexer) (place : KeyPlace) : Except Fault Unit :=
  if place.isRequired then l.refuse .noColon (some .simpleKey) (some place.mark) else .ok ()

/-- A key and its colon are at most so many characters apart. -/
def keyReach : Nat := 1024

/-- Forget the places where no key can stand any more: in earlier lines, or too far back. -/
def dropStale (l : Lexer) : Except Fault Lexer := do
  let isStale (place : KeyPlace) : Bool :=
    place.mark.line ≠ l.cursor.mark.line || place.mark.index + keyReach < l.cursor.mark.index
  match (l.places.map Prod.snd).find? fun place => isStale place && place.isRequired with
  | some place => l.requireColon place
  | none => pure ()
  return { l with places := l.places.filter (!isStale ·.2) }

/-- Forget the place at the present level. -/
def dropPlace (l : Lexer) : Except Fault Lexer := do
  match l.places.lookup l.flowLevel with
  | some place => l.requireColon place
  | none => pure ()
  return { l with places := l.places.filter (·.1 ≠ l.flowLevel) }

/-- Remember that a key may start at the cursor. -/
def savePlace (l : Lexer) : Except Fault Lexer :=
  if !l.allowsKey then .ok l
  else do
    let l ← l.dropPlace
    let place : KeyPlace :=
      { token := l.taken + l.pending.length
        isRequired := !l.inFlow && l.indent = l.column
        mark := l.cursor.mark }
    return { l with places := l.places ++ [(l.flowLevel, place)] }

/-! ## Blocks -/

/-- Close the blocks that are indented further than a column. -/
def unwindFrom (column : Int) : (outer : List Int) → Lexer → Lexer
  | [], l => l
  | previous :: outer, l =>
    if column < l.indent then
      unwindFrom column outer { l.pushHere .blockEnd with indent := previous, outer }
    else l

/-- Close the blocks that are indented further than a column, outside brackets. -/
def unwind (l : Lexer) (column : Int) : Lexer :=
  if l.inFlow then l else unwindFrom column l.outer l

/-- Open a block at a column, unless there is one already. -/
def addIndent? (l : Lexer) (column : Int) : Option Lexer :=
  if l.indent < column then some { l with outer := l.indent :: l.outer, indent := column } else none

/-- Open a block at the cursor, unless there is one already. -/
def openBlock (l : Lexer) (token : Token) : Lexer :=
  match l.addIndent? l.column with
  | some l => l.pushHere token
  | none => l

/-! ## Tokens -/

/-- Take the end of the document. -/
def fetchEnd (l : Lexer) : Except Fault Lexer := do
  let l ← (l.unwind (-1)).dropPlace
  return { l.pushHere .streamEnd with allowsKey := false, places := [], isDone := true }

/-- Take a directive. -/
def fetchDirective (l : Lexer) : Except Fault Lexer := do
  let l ← (l.unwind (-1)).dropPlace
  let (d, stop, cursor) ← Property.directive l.cursor
  return { l.push (.directive d) l.cursor.mark stop with cursor, allowsKey := false }

/-- Take a mark around a document. -/
def fetchSeparator (l : Lexer) (token : Token) : Except Fault Lexer := do
  let l ← (l.unwind (-1)).dropPlace
  return { l with allowsKey := false }.pushTo token (l.cursor.forward 3)

/-- Take an opening bracket. -/
def fetchOpening (l : Lexer) (token : Token) : Except Fault Lexer := do
  let l ← l.savePlace
  return { l with flowLevel := l.flowLevel + 1, allowsKey := true }.pushTo token l.cursor.next

/-- Take a closing bracket. -/
def fetchClosing (l : Lexer) (token : Token) : Except Fault Lexer := do
  let l ← l.dropPlace
  return { l with flowLevel := l.flowLevel - 1, allowsKey := false }.pushTo token l.cursor.next

/-- Take a comma inside brackets. -/
def fetchComma (l : Lexer) : Except Fault Lexer := do
  let l ← { l with allowsKey := true }.dropPlace
  return l.pushTo .flowEntry l.cursor.next

/-- Take the mark of an item. -/
def fetchItem (l : Lexer) : Except Fault Lexer := do
  if !l.inFlow && !l.allowsKey then l.refuse .noItemHere
  else
    let l := if l.inFlow then l else l.openBlock .blockSequenceStart
    let l ← { l with allowsKey := true }.dropPlace
    return l.pushTo .blockEntry l.cursor.next

/-- Take the mark of a key. -/
def fetchKey (l : Lexer) : Except Fault Lexer := do
  if !l.inFlow && !l.allowsKey then l.refuse .noKeyHere
  else
    let l := if l.inFlow then l else l.openBlock .blockMappingStart
    let l ← { l with allowsKey := !l.inFlow }.dropPlace
    return l.pushTo .key l.cursor.next

/-- Put tokens where a key stands. -/
def insert (l : Lexer) (place : KeyPlace) (tokens : List Token) : Lexer :=
  let before := place.token - l.taken
  let found := tokens.map fun token => (⟨token, place.mark, place.mark⟩ : Lexeme)
  { l with pending := l.pending.take before ++ found ++ l.pending.drop before }

/-- Take the colon behind a key. The key gets its token now, and opens a block if it stands at a
column of its own. -/
def fetchColon (l : Lexer) : Except Fault Lexer := do
  match l.places.lookup l.flowLevel with
  | some place =>
    let l := { l with places := l.places.filter (·.1 ≠ l.flowLevel), allowsKey := false }
    let l := match if l.inFlow then none else l.addIndent? place.mark.column with
      | some l => l.insert place [.blockMappingStart, .key]
      | none => l.insert place [.key]
    return l.pushTo .value l.cursor.next
  | none =>
    if !l.inFlow && !l.allowsKey then l.refuse .noValueHere
    else
      let l := if l.inFlow then l else l.openBlock .blockMappingStart
      let l ← { l with allowsKey := !l.inFlow }.dropPlace
      return l.pushTo .value l.cursor.next

/-- Take an alias or anchor. -/
def fetchName (l : Lexer) (token : String → Token) : Except Fault Lexer := do
  let l ← l.savePlace
  let (name, cursor) ← Property.anchor l.cursor
  return { l with allowsKey := false }.pushTo (token name) cursor

/-- Take a tag. -/
def fetchTag (l : Lexer) : Except Fault Lexer := do
  let l ← l.savePlace
  let ((handle, suffix), cursor) ← Property.tag l.cursor
  return { l with allowsKey := false }.pushTo (.tag handle suffix) cursor

/-- Take a block scalar. -/
def fetchBlock (l : Lexer) : Except Fault Lexer := do
  let l ← { l with allowsKey := true }.dropPlace
  let (text, cursor) ← Block.scan l.indent l.cursor
  return l.pushTo (.scalar (String.ofList text) false) cursor

/-- Take a scalar in quotes. -/
def fetchQuoted (l : Lexer) : Except Fault Lexer := do
  let l ← l.savePlace
  let (text, cursor) ← Enclosed.scan l.cursor
  return { l with allowsKey := false }.pushTo (.scalar (String.ofList text) false) cursor

/-- Take a plain scalar. -/
def fetchPlain (l : Lexer) : Except Fault Lexer := do
  let l ← l.savePlace
  let scan := Plain.scan l.inFlow (l.indent + 1) l.cursor
  let l := l.push (.scalar (String.ofList scan.text) true) l.cursor.mark scan.stop
  return { l with cursor := scan.cursor, allowsKey := scan.endsInBreak }

/-- The marks that start no plain scalar. -/
def marks : List Char :=
  ['-', '?', ':', ',', '[', ']', '\x7b', '\x7d', '#', '&', '*', '!', '|', '>', '\'', '\x22', '%', '@',
    Char.ofNat 0x60]

/-- Whether a plain scalar may start at the cursor. -/
def startsPlain (l : Lexer) : Bool :=
  let c := l.cursor.peek
  !(isBlankOrEnd c || marks.contains c) ||
    (!isBlankOrEnd (l.cursor.peek 1) && (c = '-' || (!l.inFlow && (c = '?' || c = ':'))))

/-- Go over spaces, comments and line ends; a key may follow a line end outside brackets. -/
def skipIdle : (fuel : Nat) → Lexer → Lexer
  | 0, l => l
  | fuel + 1, l =>
    let cursor := l.cursor.skipComment
    match cursor.lineEnd? with
    | some (_, cursor) => skipIdle fuel { l with cursor, allowsKey := l.allowsKey || !l.inFlow }
    | none => { l with cursor }

/-- The lexer behind a mark of the byte order at the very beginning. -/
def skipOrderMark (l : Lexer) : Lexer :=
  if l.cursor.mark.index = 0 && l.cursor.peek = '\ufeff' then { l with cursor := l.cursor.next }
  else l

/-- **Read on**: by one token with characters, and those without that go with it. -/
def fetch (l : Lexer) : Except Fault Lexer := do
  let l := l.skipOrderMark
  let l ← (l.skipIdle (l.cursor.rest.length + 1)).dropStale
  let l := l.unwind l.column
  let c := l.cursor.peek
  let counts := l.inFlow || isBlankOrEnd (l.cursor.peek 1)
  let atStart := l.column = 0
  if c = ending then l.fetchEnd
  else if c = '%' && atStart then l.fetchDirective
  else if atStart && l.cursor.hasSeparator '-' then l.fetchSeparator .documentStart
  else if atStart && l.cursor.hasSeparator '.' then l.fetchSeparator .documentEnd
  else if c = '[' then l.fetchOpening .flowSequenceStart
  else if c = '\x7b' then l.fetchOpening .flowMappingStart
  else if c = ']' then l.fetchClosing .flowSequenceEnd
  else if c = '\x7d' then l.fetchClosing .flowMappingEnd
  else if c = ',' then l.fetchComma
  else if c = '-' && isBlankOrEnd (l.cursor.peek 1) then l.fetchItem
  else if c = '?' && counts then l.fetchKey
  else if c = ':' && counts then l.fetchColon
  else if c = '*' then l.fetchName .alias
  else if c = '&' then l.fetchName .anchor
  else if c = '!' then l.fetchTag
  else if (c = '|' || c = '>') && !l.inFlow then l.fetchBlock
  else if c = '\'' || c = '\x22' then l.fetchQuoted
  else if l.startsPlain then l.fetchPlain
  else l.refuse (.noTokenStart c) (some .nextToken)

/-! ## Taking tokens -/

/-- Whether the next token is one whose key, if it is one, is not settled. -/
def isOpen (l : Lexer) : Bool :=
  match (l.places.map fun place => place.2.token).min? with
  | some first => first = l.taken
  | none => false

/-- Read on until the next token is settled. -/
def settle : (fuel : Nat) → Lexer → Except Fault Lexer
  | 0, l => .ok l
  | fuel + 1, l =>
    if l.isDone then .ok l
    else if l.pending.isEmpty then do settle fuel (← l.fetch)
    else do
      let l ← l.dropStale
      if l.isOpen then settle fuel (← l.fetch) else return l

/-- **The next token**, which stays. -/
def peek (l : Lexer) : Except Fault (Lexeme × Lexer) := do
  let l ← settle (l.cursor.rest.length + 2) l
  return (l.pending.head?.getD ⟨.streamEnd, l.cursor.mark, l.cursor.mark⟩, l)

/-- The lexer without its next token. -/
def drop (l : Lexer) : Lexer := { l with pending := l.pending.drop 1, taken := l.taken + 1 }

/-- The lexer of a document. -/
def ofChars (source : List Char) : Lexer := { cursor := { rest := source } }

end Lexer

end CallTree.Yaml
