/-
# CallTree.Pattern.Matcher — matching by ordered search.

A pattern is run at a place against a continuation: what has to match after it. Alternatives and
counts are tried in the order that the pattern prescribes, and the first way through decides. Groups
remember where they were last opened and closed, which references and conditions read.

A way that fails leaves marks behind, and they count for what is tried next: only inside a
repetition that can be taken back are all marks put back; elsewhere the marks that were set since
are dropped, and one that was overwritten stays so.

The matcher is total. It follows the tree; only repetitions need a count, and a repetition that
takes no characters ends itself, so the length of the text bounds the useful rounds.
-/
import CallTree.Pattern.Regex
import CallTree.Text.Alphanumeric
import CallTree.Text.Blank
import CallTree.Text.Case

namespace CallTree.Pattern

/-! ## Marks -/

/-- **`Marks`** — where groups were last opened and closed: two entries for each group, the first
group first, up to the last mark that was set. -/
abbrev Marks := List (Option Nat)

namespace Marks

/-- Set the mark at `index`. Marks before it that were never set become known as missing. -/
def put (m : Marks) (index position : Nat) : Marks :=
  if index < m.length then m.set index (some position)
  else m ++ List.replicate (index - m.length) none ++ [some position]

/-- Note where a group is opened. -/
def openGroup (m : Marks) (index position : Nat) : Marks := m.put (2 * (index - 1)) position

/-- Note where a group is closed. -/
def closeGroup (m : Marks) (index position : Nat) : Marks := m.put (2 * (index - 1) + 1) position

/-- The places where a group was last opened and last closed. -/
def ends? (m : Marks) (index : Nat) : Option (Nat × Nat) :=
  match (m[2 * (index - 1)]?).join, (m[2 * (index - 1) + 1]?).join with
  | some start, some stop => some (start, stop)
  | _, _ => none

/-- The span of a group, if it has taken part. A group that was opened again behind the place where
it was last closed has none. -/
def span? (m : Marks) (index : Nat) : Option (Nat × Nat) :=
  (m.ends? index).filter fun (start, stop) => start ≤ stop

/-- Whether every group that was opened and closed has a span. -/
def allSpans (m : Marks) : Bool :=
  (List.range m.length).all fun i =>
    match m.ends? (i + 1) with
    | some (start, stop) => start ≤ stop
    | none => true

/-- The marks after a failed way: those before it in full, or what the way has left of them. -/
def restored (inFull : Bool) (before left : Marks) : Marks :=
  if inFull then before else left.take before.length

end Marks

/-- A place in the text, and the marks on the way there. -/
structure Spot where
  position : Nat
  marks : Marks := []

/-- How a way ends: at a spot, or nowhere, with the marks that it leaves behind. -/
inductive Outcome where
  | reached (s : Spot)
  | failed (left : Marks)

/-- No way leads on from a spot. -/
def Spot.fail (s : Spot) : Outcome := .failed s.marks

/-- If a way from the spot `s` fails, go on there with the marks put back. -/
def Outcome.orElse (o : Outcome) (inFull : Bool) (s : Spot) (next : Spot → Outcome) : Outcome :=
  match o with
  | .reached s' => .reached s'
  | .failed left => next { s with marks := Marks.restored inFull s.marks left }

/-- What has to match after a pattern. -/
abbrev Continuation := Spot → Outcome

/-! ## Single characters -/

/-- Whether a character belongs to a named class. -/
def Category.holds (ascii : Bool) (k : Category) (c : Char) : Bool :=
  match k with
  | .digit => if ascii then c.isDigit else Text.isDigit c
  | .space =>
    if ascii then c = ' ' || (9 ≤ c.toNat && c.toNat ≤ 13) else Text.isBlank c
  | .word => if ascii then c.isAlphanum || c = '_' else Text.isWord c

/-- The code points that count as equal to `c`. -/
def variants (f : Flags) (c : Nat) : List Nat :=
  if !f.ignoreCase then [c]
  else if f.unicode then Text.caseVariants c
  else
    let low := if 65 ≤ c && c ≤ 90 then c + 32 else c
    if 97 ≤ low && low ≤ 122 then [low, low - 32] else [c]

/-- Whether a code point has a case other than itself. -/
def hasCases (f : Flags) (c : Nat) : Bool := variants f c != [c]

/-- The character that stands for a character and its other cases. -/
def folded (f : Flags) (c : Char) : Char :=
  if !f.ignoreCase then c
  else if f.unicode then Text.lowerChar c
  else c.toLower

/-- Sets keep track of cases up to this code point. Beyond it, a member of a set is compared with
the lower case of a character, and a range also with the upper case of that. -/
def lastFoldedCode : Nat := 0xffff

/-- Whether a character is meant by a member of a set; `codes` are the code points that count as
equal to it. -/
def SetItem.holds (f : Flags) (codes : List Nat) (c : Char) : SetItem → Bool
  | .code n => if n ≤ lastFoldedCode then codes.contains n else (folded f c).toNat = n
  | .range lo hi =>
    let within (n : Nat) : Bool := lo ≤ n && n ≤ hi
    codes.any within || (f.ignoreCase && lastFoldedCode < hi &&
      within (((Text.upperChars (folded f c)).map Char.toNat).headD 0))
  | .category negated k => k.holds (!f.unicode) c != negated

/-- Whether a set holds a character. -/
def setHolds (f : Flags) (negated : Bool) (items : List SetItem) (c : Char) : Bool :=
  let codes := variants f c.toNat
  (items.any fun item => item.holds f codes c) != negated

/-! ## Places -/

/-- Whether a place satisfies an anchor. -/
def Anchor.holds (f : Flags) (text : Array Char) (position : Nat) (a : Anchor) : Bool :=
  let wordAt (i : Nat) : Bool :=
    match text[i]? with
    | some c => Category.word.holds (!f.unicode) c
    | none => false
  let before := 0 < position && wordAt (position - 1)
  match a with
  | .textStart => position = 0
  | .textEnd => position = text.size
  | .lineStart =>
    position = 0 || (f.multiline && text[position - 1]? = some '\n')
  | .lineEnd =>
    position = text.size || (text[position]? = some '\n' &&
      (f.multiline || position + 1 = text.size))
  | .boundary => text.size ≠ 0 && before != wordAt position
  | .noBoundary => text.size ≠ 0 && before == wordAt position

/-! ## Repetitions -/

/-- Whether a repetition may go on after `done` rounds, of which the last began at `last`: there is
room for one more round, and the last one moved on. -/
def mayRepeat (most : Option Nat) (done : Nat) (last : Option Nat) (s : Spot) : Bool :=
  (match most with
    | some n => done < n
    | none => true) && last ≠ some s.position

/-- Rounds of a repetition: `run` matches one round. A round beyond the least count is tried only
if the round before it moved on. `inFull` says how marks are put back around the repetition. -/
def rounds (run : Spot → Continuation → Outcome) (lazy inFull : Bool) (least : Nat)
    (most : Option Nat) : (fuel done : Nat) → (last : Option Nat) → Spot → Continuation → Outcome
  | 0, _, _, s, k => k s
  | fuel + 1, done, last, s, k =>
    let next (last : Option Nat) (s : Spot) : Outcome :=
      run s fun s' => rounds run lazy inFull least most fuel (done + 1) last s' k
    if done < least then next last s
    else if lazy then
      (k s).orElse inFull s fun s =>
        if mayRepeat most done last s then next (some s.position) s else s.fail
    else if mayRepeat most done last s then (next (some s.position) s).orElse true s k
    else k s

/-- Rounds that are never taken back. -/
def roundsForGood (run : Spot → Continuation → Outcome) (least : Nat) (most : Option Nat) :
    (fuel done : Nat) → (last : Option Nat) → Spot → Outcome
  | 0, _, _, s => .reached s
  | fuel + 1, done, last, s =>
    if done < least then
      match run s .reached with
      | .reached s' => roundsForGood run least most fuel (done + 1) last s'
      | .failed left => .failed left
    else if mayRepeat most done last s then
      match run s .reached with
      | .reached s' => roundsForGood run least most fuel (done + 1) (some s.position) s'
      | .failed _ => .reached s
    else .reached s

/-- How many characters from a place on satisfy `p`, counted up to `limit`. -/
def runLength (text : Array Char) (p : Char → Bool) : (limit position : Nat) → Nat
  | 0, _ => 0
  | limit + 1, position =>
    match text[position]? with
    | some c => if p c then runLength text p limit (position + 1) + 1 else 0
    | none => 0

/-- Go on behind `extra` more characters than at a spot, or else behind fewer. -/
def fewer (inFull : Bool) (k : Continuation) : (extra : Nat) → Spot → Outcome
  | 0, s => (k s).orElse inFull s Spot.fail
  | extra + 1, s =>
    (k { s with position := s.position + extra + 1 }).orElse inFull s (fewer inFull k extra)

/-- Go on at a spot, or else behind up to `extra` more characters. -/
def more (inFull : Bool) (k : Continuation) : (extra : Nat) → Spot → Outcome
  | 0, s => (k s).orElse inFull s Spot.fail
  | extra + 1, s =>
    (k s).orElse inFull s fun s => more inFull k extra { s with position := s.position + 1 }

/-- Repeat a single character that satisfies `p`. -/
def repeatCharacter (text : Array Char) (p : Char → Bool) (greed : Greed) (inFull : Bool)
    (least : Nat) (most : Option Nat) (s : Spot) (k : Continuation) : Outcome :=
  let room := text.size - s.position
  let count := runLength text p (min room (most.getD room)) s.position
  if count < least then s.fail
  else
    let start := { s with position := s.position + least }
    match greed with
    | .greedy => fewer inFull k (count - least) start
    | .lazy => more inFull k (count - least) start
    | .possessive => k { s with position := s.position + count }

/-! ## Trees -/

/-- Whether the text at `position` repeats the span from `start` to `stop`. -/
def repeats (f : Flags) (text : Array Char) (start stop position : Nat) : Bool :=
  (List.range (stop - start)).all fun i =>
    match text[start + i]?, text[position + i]? with
    | some a, some b => folded f a = folded f b
    | _, _ => false

/-- The test of a pattern that takes one character. -/
def characterTest? : Regex → Flags → Option (Char → Bool)
  | .char negated code, f => some fun c => (variants f c.toNat).contains code != negated
  | .oneOf negated items, f => some (setHolds f negated items)
  | .anyChar, f => some fun c => f.dotAll || c ≠ '\n'
  | .group none added removed body, f => characterTest? body (f.inScope added removed)
  | _, _ => none

/-- One character at a place, if it satisfies `p`. -/
def step (text : Array Char) (p : Char → Bool) (s : Spot) (k : Continuation) : Outcome :=
  match text[s.position]? with
  | some c => if p c then k { s with position := s.position + 1 } else s.fail
  | none => s.fail

/-- **Run** a pattern at a place before a continuation. `inFull` holds inside a repetition that can
be taken back. -/
def run (text : Array Char) : Regex → Flags → (inFull : Bool) → Spot → Continuation → Outcome
  | .empty, _, _, s, k => k s
  | .char negated code, f, _, s, k =>
    step text (fun c => (variants f c.toNat).contains code != negated) s k
  | .oneOf negated items, f, _, s, k => step text (setHolds f negated items) s k
  | .anyChar, f, _, s, k => step text (fun c => f.dotAll || c ≠ '\n') s k
  | .anchor a, f, _, s, k => if a.holds f text s.position then k s else s.fail
  | .seq a b, f, inFull, s, k => run text a f inFull s fun s' => run text b f inFull s' k
  | .either a b, f, inFull, s, k =>
    (run text a f inFull s k).orElse inFull s fun s =>
      (run text b f inFull s k).orElse inFull s Spot.fail
  | .repeated greed least most body, f, inFull, s, k =>
    match characterTest? body f with
    | some p => repeatCharacter text p greed inFull least most s k
    | none =>
      let fuel := least + text.size + 2
      match greed with
      | .greedy => rounds (run text body f true) false inFull least most fuel 0 none s k
      | .lazy => rounds (run text body f true) true inFull least most fuel 0 none s k
      | .possessive =>
        match roundsForGood (run text body f inFull) least most fuel 0 none s with
        | .reached s' => k s'
        | .failed left => .failed left
  | .group index added removed body, f, inFull, s, k =>
    let f := f.inScope added removed
    match index with
    | some i =>
      run text body f inFull { s with marks := s.marks.openGroup i s.position } fun s' =>
        k { s' with marks := s'.marks.closeGroup i s'.position }
    | none => run text body f inFull s k
  | .atomic body, f, inFull, s, k =>
    match run text body f inFull s .reached with
    | .reached s' => k s'
    | .failed left => .failed left
  | .look ahead negated body, f, inFull, s, k =>
    let back := if ahead then 0 else body.width.1
    if s.position < back then if negated then k s else s.fail
    else
      match run text body f inFull { s with position := s.position - back } .reached with
      | .reached s' =>
        if negated then .failed s'.marks else k { s' with position := s.position }
      | .failed left =>
        if negated then k { s with marks := Marks.restored inFull s.marks left }
        else .failed left
  | .backref index _, f, _, s, k =>
    match s.marks.span? index with
    | some (start, stop) =>
      if repeats f text start stop s.position then
        k { s with position := s.position + (stop - start) }
      else s.fail
    | none => s.fail
  | .conditional index present absent, f, inFull, s, k =>
    match s.marks.span? index with
    | some _ => run text present f inFull s k
    | none => run text absent f inFull s k

/-! ## Searching -/

/-- The set that the first character of a pattern has to be in, if the pattern starts with one and
its members have no other cases where case is ignored. -/
def leadingSet? : Regex → Flags → Option (Bool × List SetItem)
  | .oneOf negated items, f =>
    let caseless (item : SetItem) : Bool :=
      match item with
      | .code c => !hasCases f c
      | .range lo hi =>
        hi ≤ lastFoldedCode && !(List.range (hi + 1 - lo)).any fun i => hasCases f (lo + i)
      | .category _ _ => true
    if !f.ignoreCase || items.all caseless then some (negated, items) else none
  | .seq a _, f => leadingSet? a f
  | .group _ added removed body, f => leadingSet? body (f.inScope added removed)
  | _, _ => none

/-- The test that the first character of a match has to pass: if the pattern takes characters and
starts with a set, the set by the flags of the whole pattern alone. -/
def leadingTest? (tree : Regex) (flags : Flags) : Option (Char → Bool) :=
  if tree.width.1 = 0 then none
  else (leadingSet? tree flags).map fun (negated, items) =>
    setHolds { flags with ignoreCase := false } negated items

/-- The first place in a text from which a pattern matches, and the marks of the match. Only places
whose character passes the leading test are tried. -/
def search (tree : Regex) (flags : Flags) (text : Array Char) : Option Spot :=
  let leading := leadingTest? tree flags
  let isTried (position : Nat) : Bool :=
    match leading with
    | some p => text[position]?.any p
    | none => true
  (List.range (text.size + 1)).findSome? fun i =>
    if isTried i then
      match run text tree flags false { position := i } .reached with
      | .reached s => some s
      | .failed _ => none
    else none

end CallTree.Pattern
