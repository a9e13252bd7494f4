/-
# CallTree.Yaml.Property — anchors, aliases, tags and directives.

An anchor or alias is a name of ASCII letters, digits, hyphens and low lines. A tag is an address in
angle brackets, or a suffix behind a handle between exclamation marks; in addresses a percent sign
starts an octet. A directive stands before a document: the version of the format, or the address
that a handle stands for.
-/
import CallTree.Yaml.Fault
import CallTree.Yaml.Token

namespace CallTree.Yaml.Property

/-- A fault in something that begins at `start`. -/
def refuse {α : Type} (activity : Activity) (start : Mark) (problem : Problem) (c : Cursor) :
    Except Fault α :=
  .error (.misread ⟨.token, some activity, some start, problem, c.mark⟩)

/-- Refuse another character than expected. -/
def refuseChar {α : Type} (activity : Activity) (start : Mark) (what : String) (c : Cursor) :
    Except Fault α :=
  refuse activity start (.expected what c.peek) c

/-! ## Names -/

/-- What names and directives are expected to consist of. -/
def nameChars : String := "alphabetic or numeric character"

/-- The marks that may follow an anchor or alias beside blanks. -/
def anchorEnds : List Char := ['?', ':', ',', ']', '\x7d', '%', '@', Char.ofNat 0x60]

/-- The name of the anchor or alias in front, and the cursor after it. -/
def anchor (c : Cursor) : Except Fault (String × Cursor) :=
  let activity : Activity := if c.peek = '*' then .alias else .anchor
  let start := c.mark
  let c := c.next
  let name := c.ahead isNameChar
  let after := c.forward name.length
  if name.isEmpty then refuseChar activity start nameChars c
  else if isBlankOrEnd after.peek || anchorEnds.contains after.peek then
    .ok (String.ofList name, after)
  else refuseChar activity start nameChars after

/-! ## Tags -/

/-- The characters of addresses. -/
def isAddressChar (c : Char) : Bool := c.isAlphanum || "-;/?:@&=+$,_.!~*'()[]%".toList.contains c

/-- The octets of the escapes in front, and the cursor after them. -/
def octets (activity : Activity) (start : Mark) :
    (fuel : Nat) → Cursor → Except Fault (List UInt8 × Cursor)
  | 0, c => .ok ([], c)
  | fuel + 1, c =>
    if c.peek ≠ '%' then .ok ([], c)
    else
      let c := c.next
      match Text.Percent.octet? c.peek (c.peek 1) with
      | some b => (octets activity start fuel (c.forward 2)).map fun (bs, c) => (b :: bs, c)
      | none =>
        let found := if (Text.Percent.hexValue? c.peek).isSome then c.peek 1 else c.peek
        refuse activity start
          (.expected "URI escape sequence of 2 hexadecimal numbers" found) c

/-- The characters of an address from the cursor on, and the cursor after them. `scanning` is what
faults in escapes are said to happen in. -/
def addressFrom (scanning : Activity) (start : Mark) :
    (fuel : Nat) → Cursor → Except Fault (List Char × Cursor)
  | 0, c => .ok ([], c)
  | fuel + 1, c =>
    if !isAddressChar c.peek then .ok ([], c)
    else if c.peek = '%' then
      match octets scanning start c.rest.length c with
      | .error f => .error f
      | .ok (bs, after) =>
        match Text.Utf8.decode bs with
        | .error f => refuse scanning start (.octets f) c
        | .ok text =>
          (addressFrom scanning start fuel after).map fun (cs, c) => (text.toList ++ cs, c)
    else (addressFrom scanning start fuel c.next).map fun (cs, last) => (c.peek :: cs, last)

/-- The address in front, which may not be empty, and the cursor after it. -/
def address (scanning parsing : Activity) (start : Mark) (c : Cursor) :
    Except Fault (List Char × Cursor) :=
  match addressFrom scanning start c.rest.length c with
  | .error f => .error f
  | .ok (cs, after) =>
    if after.mark = c.mark then refuseChar parsing start "URI" c else .ok (cs, after)

/-- The handle in front, and the cursor after it. -/
def handle (activity : Activity) (start : Mark) (c : Cursor) : Except Fault (String × Cursor) :=
  if c.peek ≠ '!' then refuseChar activity start "'!'" c
  else if c.peek 1 = ' ' then .ok ("!", c.next)
  else
    let name := c.next.ahead isNameChar
    let after := c.forward (name.length + 1)
    if after.peek ≠ '!' then refuseChar activity start "'!'" after
    else .ok (String.ofList ('!' :: name ++ ['!']), after.next)

/-- Handle and suffix of the tag in front, and the cursor after it. -/
def tag (c : Cursor) : Except Fault ((Option String × String) × Cursor) := do
  let start := c.mark
  let (found, after) ←
    if c.peek 1 = '<' then do
      let (cs, after) ← address .tag .tagAddress start (c.forward 2)
      if after.peek ≠ '>' then refuseChar .tagAddress start "'>'" after
      else pure ((none, String.ofList cs), after.next)
    else if isBlankOrEnd (c.peek 1) then pure ((none, "!"), c.next)
    else do
      let word := c.next.ahead (!isSpaceOrEnd ·)
      let (handle, rest) ← if word.contains '!' then handle .tag start c else pure ("!", c.next)
      let (cs, after) ← address .tag .tagAddress start rest
      pure ((some handle, String.ofList cs), after)
  if isSpaceOrEnd after.peek then return (found, after) else refuseChar .tag start "' '" after

/-! ## Directives -/

/-- The number in front, and the cursor after it. -/
def number (start : Mark) (c : Cursor) : Except Fault (Nat × Cursor) :=
  let ds := c.ahead Char.isDigit
  if ds.isEmpty then refuseChar .directive start "a digit" c
  else
    match Reading.natUpToLimit ds with
    | .ok n => .ok (n, c.forward ds.length)
    | .error _ => .error (.scalar (.tooManyDigits ds.length))

/-- What a version directive says after its name, and the cursor after that. -/
def version (start : Mark) (c : Cursor) : Except Fault (Directive × Cursor) := do
  let (major, c) ← number start (c.skip (· = ' '))
  if c.peek ≠ '.' then refuseChar .directive start "a digit or '.'" c
  else
    let (minor, c) ← number start c.next
    if isSpaceOrEnd c.peek then return (.version major minor, c)
    else refuseChar .directive start "a digit or ' '" c

/-- What a directive of handles says after its name, and the cursor after that. -/
def handleAddress (start : Mark) (c : Cursor) : Except Fault (Directive × Cursor) := do
  let (name, c) ← handle .directive start (c.skip (· = ' '))
  if c.peek ≠ ' ' then refuseChar .directive start "' '" c
  else
    let (cs, c) ← address .directive .directiveAddress start (c.skip (· = ' '))
    if isSpaceOrEnd c.peek then return (.handle name (String.ofList cs), c)
    else refuseChar .directive start "' '" c

/-- **The directive in front**, the place where it stops, and the cursor in the line after it. -/
def directive (c : Cursor) : Except Fault (Directive × Mark × Cursor) := do
  let start := c.mark
  let c := c.next
  let name := c.ahead isNameChar
  let after := c.forward name.length
  if name.isEmpty then refuseChar .directive start nameChars c
  else if !isSpaceOrEnd after.peek then refuseChar .directive start nameChars after
  else
    let (found, last) ←
      if name = "YAML".toList then version start after
      else if name = "TAG".toList then handleAddress start after
      else pure (.other, after)
    let rest := (if found = .other then last.skip (!endsLine ·) else last).skipComment
    if !endsLine rest.peek then refuseChar .directive start "a comment or a line break" rest
    else return (found, last.mark, (rest.lineEnd?.map Prod.snd).getD rest)

end CallTree.Yaml.Property
