/-
# CallTree.Pattern.Reader — the text of a pattern as a tree.

The reader walks over tokens: a character, or a backslash with the character after it. It looks one
token ahead, so a backslash that ends the pattern is reported as soon as the token before it is
taken. Beside the rest of the text it keeps the flags of the whole pattern, the groups opened so far
with the widths of those already closed, the names of groups, and the references by number that a
later group may still satisfy.

Recursion is bounded by a count that the length of the pattern determines (`read`); every call
either takes a token or steps down one level of nesting, so the count is never used up.
-/
import CallTree.Number.Reading
import CallTree.Pattern.Fault
import CallTree.Pattern.Regex
import CallTree.Text.CharacterName
import CallTree.Text.Identifier

namespace CallTree.Pattern

/-- A token: a character, or an escaped one. -/
inductive Token where
  | plain (c : Char)
  | escaped (c : Char)
  deriving DecidableEq, Repr

namespace Token

/-- The characters of a token. -/
def chars : Token → List Char
  | .plain c => [c]
  | .escaped c => ['\\', c]

/-- The text of a token. -/
def text (t : Token) : String := String.ofList t.chars

end Token

/-- What the reader knows. -/
structure Reader where
  /-- Whether the pattern is text; otherwise it is octets, one character each. -/
  isText : Bool
  rest : List Char
  position : Nat
  flags : Flags := {}
  /-- The widths of the groups, the whole pattern first; an open group has none. -/
  groups : List (Option (Nat × Nat)) := [none]
  names : List (String × Nat) := []
  /-- Inside a look-behind: how many groups there were before it. -/
  lookbehind : Option Nat := none
  /-- References by number in conditions, with their places. -/
  pending : List (Nat × Nat) := []

/-- A reading step: it changes what the reader knows or refuses the pattern. -/
abbrev Step := StateT Reader (Except Fault)

namespace Reader

/-- The next token. -/
def next? (r : Reader) : Option Token :=
  match r.rest with
  | [] => none
  | '\\' :: c :: _ => some (.escaped c)
  | c :: _ => some (.plain c)

/-- A lone backslash at the end of the pattern is refused when it comes into view. -/
def inView (r : Reader) : Except Fault Reader :=
  if r.rest = ['\\'] then .error (.refused .escapeAtEnd (some r.position)) else .ok r

/-- The reader after its next token. -/
def advance (r : Reader) : Except Fault Reader :=
  match r.next? with
  | none => .ok r
  | some t =>
    inView { r with rest := r.rest.drop t.chars.length, position := r.position + t.chars.length }

end Reader

/-- Refuse the pattern, `back` characters before the next token. -/
def refuse {α : Type} (cause : Cause) (back : Nat := 0) : Step α := do
  let r ← get
  throw (.refused cause (some (r.position - back)))

/-- Look at the next token. -/
def peek : Step (Option Token) := return (← get).next?

/-- Take the next token. -/
def take : Step (Option Token) := do
  let r ← get
  set (← r.advance)
  return r.next?

/-- Take the next token if it is the plain character `c`. -/
def takeIf (c : Char) : Step Bool := do
  if (← peek) = some (.plain c) then
    let _ ← take
    return true
  else return false

/-- Whether the next token is a plain character that satisfies `p`. -/
def nextIs (p : Char → Bool) : Step Bool := do
  match ← peek with
  | some (.plain c) => return p c
  | _ => return false

/-- Take at most `count` plain characters that satisfy `p`. -/
def takeWhile (p : Char → Bool) : (count : Nat) → Step (List Char)
  | 0 => return []
  | count + 1 => do
    match ← peek with
    | some (.plain c) =>
      if p c then
        let _ ← take
        return c :: (← takeWhile p count)
      else return []
    | _ => return []

/-- Take a name up to its terminator; `what` says in a fault what is named. -/
def takeName (terminator : Char) (what : String) : (fuel : Nat) → List Char → Step String
  | 0, name => return String.ofList name
  | fuel + 1, name => do
    match ← take with
    | none =>
      if name.isEmpty then refuse (.missingName what)
      else refuse (.unterminatedName terminator) name.length
    | some t =>
      if t = .plain terminator then
        if name.isEmpty then refuse (.missingName what) 1 else return String.ofList name
      else takeName terminator what fuel (name ++ t.chars)

/-! ## Names and references -/

/-- Whether a group exists and is closed. -/
def isClosed (r : Reader) (index : Nat) : Bool := ((r.groups[index]?).join).isSome

/-- Inside a look-behind only groups from before it may be referred to. -/
def checkLookbehind (index : Nat) : Step Unit := do
  let r ← get
  match r.lookbehind with
  | none => return ()
  | some before =>
    if !isClosed r index then refuse .openGroup
    else if before ≤ index then refuse .lookbehindGroup
    else return ()

/-- The width of a closed group. -/
def groupWidth (r : Reader) (index : Nat) : Nat × Nat := ((r.groups[index]?).join).getD (0, 0)

/-- Open a group; its index counts from one. -/
def openGroup (name : Option String) : Step Nat := do
  let r ← get
  let index := r.groups.length
  match name with
  | none =>
    set { r with groups := r.groups ++ [none] }
    return index
  | some n =>
    match r.names.lookup n with
    | some first =>
      refuse (.repeatedGroup n index first) (n.length + 1)
    | none =>
      set { r with groups := r.groups ++ [none], names := r.names ++ [(n, index)] }
      return index

/-- Close a group that takes `width`. -/
def closeGroup (index : Nat) (width : Nat × Nat) : Step Unit :=
  modify fun r => { r with groups := r.groups.set index (some width) }

/-! ## Escapes -/

/-- Whether a character is an octal digit. -/
def isOctal (c : Char) : Bool := '0' ≤ c && c ≤ '7'

/-- Whether a character is a hexadecimal digit. -/
def isHex (c : Char) : Bool :=
  c.isDigit || ('a' ≤ c && c ≤ 'f') || ('A' ≤ c && c ≤ 'F')

/-- The value of digits in a base. -/
def digitsValue (base : Nat) (ds : List Char) : Nat :=
  ds.foldl
    (fun n c =>
      n * base + (if c.isDigit then c.toNat - 48 else (c.toNat ||| 0x20) - 87)) 0

/-- Escapes that stand for one control character or the backslash. -/
def controlEscape? : Char → Option Nat
  | 'a' => some 7
  | 'b' => some 8
  | 'f' => some 12
  | 'n' => some 10
  | 'r' => some 13
  | 't' => some 9
  | 'v' => some 11
  | '\\' => some 92
  | _ => none

/-- Escapes that name a class of characters. -/
def categoryEscape? : Char → Option SetItem
  | 'd' => some (.category false .digit)
  | 'D' => some (.category true .digit)
  | 's' => some (.category false .space)
  | 'S' => some (.category true .space)
  | 'w' => some (.category false .word)
  | 'W' => some (.category true .word)
  | _ => none

/-- Escapes that name a place. -/
def anchorEscape? : Char → Option Anchor
  | 'A' => some .textStart
  | 'b' => some .boundary
  | 'B' => some .noBoundary
  | 'Z' => some .textEnd
  | _ => none

/-- Escapes by hexadecimal code: exactly `count` digits. -/
def hexEscape (mark : Char) (count : Nat) : Step Nat := do
  let ds ← takeWhile isHex count
  let token := String.ofList ('\\' :: mark :: ds)
  if ds.length ≠ count then refuse (.incompleteEscape token) token.length
  else
    let code := digitsValue 16 ds
    if 0x10ffff < code then refuse (.badEscape token) token.length else return code

/-- Escapes by character name. -/
def namedEscape (fuel : Nat) : Step Nat := do
  if ← takeIf '\x7b' then
    let name ← takeName '\x7d' "character name" fuel []
    match Text.characterNamed? name with
    | some code => return code
    | none => refuse (.unknownCharacterName name) (name.length + 4)
  else refuse .missingBrace

/-- Escapes that a set and an expression share: codes, names and escaped punctuation. `octal`
reads the digits after the one given. -/
def commonEscape (fuel : Nat) (c : Char) (digits : Step (Option Nat)) : Step (Option Nat) := do
  let isText := (← get).isText
  if c = 'x' then return some (← hexEscape c 2)
  else if c = 'u' && isText then return some (← hexEscape c 4)
  else if c = 'U' && isText then return some (← hexEscape c 8)
  else if c = 'N' && isText then return some (← namedEscape fuel)
  else if c.isDigit then digits
  else if c.isAlpha then refuse (.badEscape (String.ofList ['\\', c])) 2
  else return some c.toNat

/-- An octal code, refused if it is no octet. -/
def octalCode (ds : List Char) : Step Nat := do
  let code := digitsValue 8 ds
  if 0o377 < code then
    let token := String.ofList ('\\' :: ds)
    refuse (.octalTooLarge token) token.length
  else return code

/-- An escape inside a set. -/
def setEscape (fuel : Nat) (c : Char) : Step SetItem := do
  match controlEscape? c, categoryEscape? c with
  | some code, _ => return .code code
  | none, some item => return item
  | none, none =>
    let digits : Step (Option Nat) := do
      if isOctal c then return some (← octalCode (c :: (← takeWhile isOctal 2)))
      else refuse (.badEscape (String.ofList ['\\', c])) 2
    match ← commonEscape fuel c digits with
    | some code => return .code code
    | none => return .code c.toNat

/-- A single character as a tree. -/
def codeTree (code : Nat) : Regex := .char false code

/-- A reference by number, written as the digits `ds` after a backslash. -/
def numberedReference (ds : List Char) : Step Regex := do
  let r ← get
  let index := digitsValue 10 ds
  if index < r.groups.length then
    if !isClosed r index then refuse .openGroup (ds.length + 1)
    else
      checkLookbehind index
      return .backref index (groupWidth r index)
  else refuse (.invalidReference index) ds.length

/-- An escape outside a set. -/
def treeEscape (fuel : Nat) (c : Char) : Step Regex := do
  match anchorEscape? c, categoryEscape? c, controlEscape? c with
  | some a, _, _ => return .anchor a
  | none, some item, _ => return .oneOf false [item]
  | none, none, some code => return codeTree code
  | none, none, none =>
    if c = '0' then return codeTree (digitsValue 8 (← takeWhile isOctal 2))
    else if c.isDigit then
      match ← takeWhile Char.isDigit 1 with
      | [d] =>
        if isOctal c && isOctal d && (← nextIs isOctal) then
          return codeTree (← octalCode (c :: d :: (← takeWhile isOctal 1)))
        else numberedReference [c, d]
      | _ => numberedReference [c]
    else
      match ← commonEscape fuel c (return none) with
      | some code => return codeTree code
      | none => return codeTree c.toNat

/-! ## Sets -/

/-- One end of a range: the member that a token stands for. -/
def setMember (fuel : Nat) : Token → Step SetItem
  | .plain c => return .code c.toNat
  | .escaped c => setEscape fuel c

/-- The members of a set up to its closing bracket. `start` is the place of the opening one. -/
def setMembers (start : Nat) : (fuel : Nat) → List SetItem → Step (List SetItem)
  | 0, items => return items
  | fuel + 1, items => do
    let unterminated {α : Type} : Step α :=
      throw (.refused .unterminatedSet (some start))
    match ← take with
    | none => unterminated
    | some this =>
      if this = .plain ']' && !items.isEmpty then return items
      else
        let first ← setMember fuel this
        if ← takeIf '-' then
          match ← take with
          | none => unterminated
          | some (.plain ']') => return items ++ [first, .code 0x2d]
          | some that =>
            let last ← setMember fuel that
            let bad {α : Type} : Step α :=
              refuse (.badRange this.text that.text)
                (this.chars.length + 1 + that.chars.length)
            match first, last with
            | .code lo, .code hi =>
              if hi < lo then bad else setMembers start fuel (items ++ [.range lo hi])
            | _, _ => bad
        else setMembers start fuel (items ++ [first])

/-- A set as a tree; one member that is a character is that character. -/
def setTree (negated : Bool) (members : List SetItem) : Regex :=
  match members.eraseDups with
  | [.code c] => .char negated c
  | distinct => .oneOf negated distinct

/-! ## Repetitions -/

/-- The count that digits spell. -/
def repetitionCount (ds : List Char) : Step Nat :=
  match Reading.natUpToLimit ds with
  | .error _ => throw (.tooManyDigits ds.length)
  | .ok n => if Regex.repetitionLimit ≤ n then throw .countTooLarge else return n

/-- The counts after an opening brace, or nothing if the brace stands for itself. -/
def braceCounts (fuel : Nat) : Step (Option (Nat × Option Nat)) := do
  let saved ← get
  if ← nextIs (· = '\x7d') then return none
  let lo ← takeWhile Char.isDigit fuel
  let hi ← if ← takeIf ',' then takeWhile Char.isDigit fuel else pure lo
  if ← takeIf '\x7d' then
    let least ← repetitionCount lo
    if hi.isEmpty then return some (least, none)
    else
      let most ← repetitionCount hi
      if most < least then throw (.refused .bounds (some saved.position))
      return some (least, some most)
  else
    set saved
    return none

/-- The counts of a quantifier, or nothing if the character stands for itself. -/
def quantifier (fuel : Nat) (c : Char) : Step (Option (Nat × Option Nat)) :=
  if c = '?' then return some (0, some 1)
  else if c = '*' then return some (0, none)
  else if c = '+' then return some (1, none)
  else braceCounts fuel

/-- The mark after a quantifier, if there is one. -/
def repetitionGreed : Step Greed := do
  match ← peek with
  | some (.plain '?') =>
    let _ ← take
    return .lazy
  | some (.plain '+') =>
    let _ ← take
    return .possessive
  | _ => return .greedy

/-- Repeat the last item; `start` is the place of the quantifier. -/
def repeatLast (start : Nat) (counts : Nat × Option Nat) (items : List Regex) :
    Step (List Regex) := do
  let refuseHere {α : Type} (cause : Cause) : Step α := throw (.refused cause (some start))
  match items.getLast? with
  | none => refuseHere .nothingToRepeat
  | some (.anchor _) => refuseHere .nothingToRepeat
  | some (.repeated _ _ _ _) => refuseHere .multipleRepeat
  | some item =>
    let greed ← repetitionGreed
    return items.dropLast ++ [.repeated greed counts.1 counts.2 item]

/-! ## Flags -/

/-- The flag of a letter. -/
def flag? : Char → Option Flags
  | 'i' => some { ignoreCase := true }
  | 'L' => some { locale := true }
  | 'm' => some { multiline := true }
  | 's' => some { dotAll := true }
  | 'x' => some { verbose := true }
  | 'a' => some { ascii := true }
  | 't' => some { template := true }
  | 'u' => some { unicode := true }
  | _ => none

/-- The flag of a token. -/
def tokenFlag? : Token → Option Flags
  | .plain c => flag? c
  | .escaped _ => none

/-- The fault of a token that is no flag: an unknown letter, or the fault given. -/
def noFlag {α : Type} (t : Token) (otherwise : Cause) : Step α :=
  match t with
  | .plain c => refuse (if Text.isLetter c then .unknownFlag else otherwise) 1
  | .escaped _ => refuse otherwise 2

/-- The flags that are switched on, from the letter given to the token that ends them. -/
def flagsOn : (fuel : Nat) → Flags → Flags → Step (Flags × Token)
  | 0, added, _ => return (added, .plain ')')
  | fuel + 1, added, flag => do
    let isText := (← get).isText
    if flag.locale && isText then refuse .localeOnText
    else if flag.unicode && !isText then refuse .unicodeOnOctets
    else
      let added := added.union flag
      let charsets := [added.ascii, added.unicode, added.locale].count true
      if flag.hasCharset && 1 < charsets then refuse .charsetClash
      else
        match ← take with
        | none => refuse .flagsUnfinished
        | some t =>
          if t = .plain ')' || t = .plain '-' || t = .plain ':' then return (added, t)
          else
            match tokenFlag? t with
            | some f => flagsOn fuel added f
            | none => noFlag t .flagsUnfinished

/-- The flags that are switched off, from the letter given to the colon. -/
def flagsOff : (fuel : Nat) → Flags → Flags → Step Flags
  | 0, removed, _ => return removed
  | fuel + 1, removed, flag => do
    if flag.hasCharset then refuse .charsetOff
    else
      let removed := removed.union flag
      match ← take with
      | none => refuse .missingColon
      | some t =>
        if t = .plain ':' then return removed
        else
          match tokenFlag? t with
          | some f => flagsOff fuel removed f
          | none => noFlag t .missingColon

/-- The flags of a group from their first character: those of the whole pattern are recorded and
give nothing; those of a scope are returned, switched on and switched off. -/
def groupFlags (fuel : Nat) (first : Char) : Step (Option (Flags × Flags)) := do
  let (added, stop) ←
    match flag? first with
    | some f => flagsOn fuel {} f
    | none => pure ({}, Token.plain '-')
  if stop = .plain ')' then
    modify fun r => { r with flags := r.flags.union added }
    return none
  else if added.template then refuse .globalOn 1
  else if stop = .plain '-' then
    match ← take with
    | none => refuse .missingFlag
    | some t =>
      match tokenFlag? t with
      | none => noFlag t .missingFlag
      | some f =>
        let removed ← flagsOff fuel {} f
        if removed.template then refuse .globalOff 1
        else if added.meets removed then refuse .flagOnAndOff 1
        else return some (added, removed)
  else return some (added, {})

/-! ## Groups -/

/-- What an opening parenthesis starts. -/
inductive Opening where
  /-- Nothing more: a comment, flags of the whole pattern, or a reference by name. -/
  | done (items : List Regex)
  | look (ahead negated : Bool)
  | condition (index : Nat)
  | capture (name : Option String)
  | scope (added removed : Flags)
  | atomic

/-- Skip a comment; `start` is the place of its parenthesis. -/
def skipComment (start : Nat) : (fuel : Nat) → Step Unit
  | 0 => return ()
  | fuel + 1 => do
    match ← peek with
    | none => throw (.refused .unterminatedComment (some start))
    | some t =>
      let _ ← take
      if t = .plain ')' then return () else skipComment start fuel

/-- A reference by name. -/
def namedReference (fuel : Nat) : Step Regex := do
  let name ← takeName ')' "group name" fuel []
  if !Text.isIdentifier name then refuse (.badGroupName name) (name.length + 1)
  else
    let r ← get
    match r.names.lookup name with
    | none => refuse (.unknownGroup name) (name.length + 1)
    | some index =>
      if !isClosed r index then refuse .openGroup (name.length + 1)
      else
        checkLookbehind index
        return .backref index (groupWidth r index)

/-- The group that a condition asks about. -/
def conditionGroup (fuel : Nat) : Step Nat := do
  let name ← takeName ')' "group name" fuel []
  let back := name.length + 1
  let index ←
    if Text.isIdentifier name then
      match (← get).names.lookup name with
      | none => refuse (.unknownGroup name) back
      | some index => pure index
    else
      match Reading.int name with
      | .ok (.ofNat 0) => refuse .badGroupNumber back
      | .ok (.ofNat n) =>
        if 1073741823 ≤ n then refuse (.invalidReference n) back
        else
          modify fun r =>
            if (r.pending.lookup n).isSome then r
            else { r with pending := r.pending ++ [(n, r.position - back)] }
          pure n
      | _ => refuse (.badGroupName name) back
  checkLookbehind index
  return index

/-- Read what follows an opening parenthesis at `start`. `atStart` says whether flags of the whole
pattern may stand here. -/
def opening (fuel start : Nat) (atStart : Bool) : Step Opening := do
  if !(← takeIf '?') then return .capture none
  match ← take with
  | none => refuse .unexpectedEnd
  | some (.escaped c) => refuse (.unknownExtension (String.ofList ['\\', c])) 3
  | some (.plain 'P') =>
    match ← take with
    | none => refuse .unexpectedEnd
    | some (.plain '<') =>
      let name ← takeName '>' "group name" fuel []
      if !Text.isIdentifier name then refuse (.badGroupName name) (name.length + 1)
      else return .capture (some name)
    | some (.plain '=') => return .done [← namedReference fuel]
    | some t => refuse (.unknownExtension ("P" ++ t.text)) (t.chars.length + 2)
  | some (.plain ':') => return .scope {} {}
  | some (.plain '#') =>
    skipComment start fuel
    return .done []
  | some (.plain '=') => return .look true false
  | some (.plain '!') => return .look true true
  | some (.plain '<') =>
    match ← take with
    | none => refuse .unexpectedEnd
    | some (.plain '=') => return .look false false
    | some (.plain '!') => return .look false true
    | some t => refuse (.unknownExtension ("<" ++ t.text)) (t.chars.length + 2)
  | some (.plain '(') => return .condition (← conditionGroup fuel)
  | some (.plain '>') => return .atomic
  | some (.plain c) =>
    if c = '-' || (flag? c).isSome then
      match ← groupFlags fuel c with
      | some (added, removed) => return .scope added removed
      | none =>
        if atStart then return .done []
        else throw (.refused .lateFlags (some start))
    else refuse (.unknownExtension (String.singleton c)) 2

/-- Skip the rest of a line. -/
def skipLine : (fuel : Nat) → Step Unit
  | 0 => return ()
  | fuel + 1 => do
    match ← take with
    | none => return ()
    | some t => if t = .plain '\n' then return () else skipLine fuel

/-- Blanks that verbose patterns ignore. -/
def isLayout (c : Char) : Bool :=
  c = ' ' || c = '\t' || c = '\n' || c = '\r' || c.toNat = 0x0b || c.toNat = 0x0c

/-- Require the parenthesis that closes the one at `start`. -/
def closing (start : Nat) : Step Unit := do
  if ← takeIf ')' then return () else throw (.refused .unterminatedGroup (some start))

mutual

/-- Alternatives up to a closing parenthesis or the end. -/
def alternatives (fuel : Nat) (verbose nested : Bool) : Step Regex :=
  match fuel with
  | 0 => return .empty
  | fuel + 1 => do
    let first ← items fuel verbose (!nested) []
    let others ← moreAlternatives fuel verbose nested
    return .ofSequence (Regex.ofAlternatives (first :: others))

/-- The alternatives after the first. -/
def moreAlternatives (fuel : Nat) (verbose nested : Bool) : Step (List (List Regex)) :=
  match fuel with
  | 0 => return []
  | fuel + 1 => do
    if ← takeIf '|' then
      let overall := (← get).flags.verbose
      let verbose := if nested then verbose else overall
      let here ← items fuel verbose false []
      return here :: (← moreAlternatives fuel verbose nested)
    else return []

/-- The items of a sequence, after those already read. `first` holds in the first sequence of the
whole pattern. A scope that changes nothing gives way to its items once the sequence is complete. -/
def items (fuel : Nat) (verbose first : Bool) (sofar : List Regex) : Step (List Regex) :=
  match fuel with
  | 0 => return sofar
  | fuel + 1 => do
    let start := (← get).position
    let complete := sofar.flatMap Regex.unscoped
    match ← peek with
    | none => return complete
    | some (.plain '|') => return complete
    | some (.plain ')') => return complete
    | some (.escaped c) =>
      let _ ← take
      items fuel verbose first (sofar ++ [← treeEscape fuel c])
    | some (.plain c) =>
      let _ ← take
      if verbose && isLayout c then items fuel verbose first sofar
      else if verbose && c = '#' then
        skipLine fuel
        items fuel verbose first sofar
      else if c = '.' then items fuel verbose first (sofar ++ [.anyChar])
      else if c = '^' then items fuel verbose first (sofar ++ [.anchor .lineStart])
      else if c = '$' then items fuel verbose first (sofar ++ [.anchor .lineEnd])
      else if c = '[' then
        let negated ← takeIf '^'
        let members ← setMembers start fuel []
        items fuel verbose first (sofar ++ [setTree negated members])
      else if c = '*' || c = '+' || c = '?' || c = '\x7b' then
        match ← quantifier fuel c with
        | none => items fuel verbose first (sofar ++ [codeTree c.toNat])
        | some counts => items fuel verbose first (← repeatLast start counts sofar)
      else if c = '(' then
        match ← opening fuel start (first && sofar.isEmpty) with
        | .done found =>
          let overall := (← get).flags.verbose
          items fuel (verbose || (first && overall)) first (sofar ++ found)
        | .look ahead negated =>
          let outer := (← get).lookbehind
          if !ahead && outer.isNone then
            modify fun r => { r with lookbehind := some r.groups.length }
          let body ← alternatives fuel verbose true
          if !ahead && outer.isNone then modify fun r => { r with lookbehind := none }
          closing start
          items fuel verbose first (sofar ++ [.look ahead negated body])
        | .condition index =>
          let present ← items fuel verbose false []
          let absent ←
            if ← takeIf '|' then
              let absent ← items fuel verbose false []
              if ← nextIs (· = '|') then refuse .tooManyBranches
              pure absent
            else pure []
          closing start
          items fuel verbose first
            (sofar ++ [.conditional index (.ofSequence present) (.ofSequence absent)])
        | .capture name =>
          let index ← openGroup name
          let body ← alternatives fuel verbose true
          closing start
          closeGroup index body.width
          items fuel verbose first (sofar ++ [.group (some index) {} {} body])
        | .scope added removed =>
          let inner := (verbose || added.verbose) && !removed.verbose
          let body ← alternatives fuel inner true
          closing start
          items fuel verbose first (sofar ++ [.group none added removed body])
        | .atomic =>
          let body ← alternatives fuel verbose true
          closing start
          items fuel verbose first (sofar ++ [.atomic body])
      else items fuel verbose first (sofar ++ [codeTree c.toNat])

end

/-- Charset flags over the whole pattern may not contradict each other or its kind. -/
def checkCharsets (isText : Bool) (flags : Flags) : Except Fault Flags :=
  if isText then
    if flags.ascii && flags.unicode then .error (.charsetContradiction "ASCII" "UNICODE")
    else .ok (if flags.ascii then flags else { flags with unicode := true })
  else if flags.locale && flags.ascii then .error (.charsetContradiction "ASCII" "LOCALE")
  else .ok flags

/-- The name by which a repetition that template patterns refuse is reported. -/
def operatorName : Greed → String
  | .greedy => "MAX_REPEAT"
  | .lazy => "MIN_REPEAT"
  | .possessive => "POSSESSIVE_REPEAT"

/-- Rules about the tree as a whole, checked once it is complete. -/
def checkTree (flags : Flags) (tree : Regex) : Except Fault Unit :=
  match flags.template, tree.firstRepetition with
  | true, some greed => .error (.refused (.templateRepetition (operatorName greed)) none)
  | _, _ =>
    if tree.looksBehindFixed then .ok () else .error (.refused .looseLookbehind none)

/-- The whole pattern: its tree, its flags and its number of groups. -/
def whole (fuel : Nat) : Step (Regex × Flags) := do
  set (← (← get).inView)
  let tree ← alternatives fuel false false
  let flags ← checkCharsets (← get).isText (← get).flags
  if (← peek).isSome then refuse .unbalanced
  let r ← get
  match r.pending.find? fun p => r.groups.length ≤ p.1 with
  | some (index, position) => throw (.refused (.invalidReference index) (some position))
  | none =>
    checkTree flags tree
    return (tree, flags)

/-- **Read a pattern**: its tree and the flags of the whole pattern. -/
def read (isText : Bool) (cs : List Char) : Except Fault (Regex × Flags) :=
  (whole (4 * cs.length + 16)).run' { isText, rest := cs, position := 0 }

end CallTree.Pattern
