/-
# CallTree.Pattern.Regex — search patterns as trees.

A pattern is a tree of single-character tests, anchors, sequences, alternatives, repetitions,
groups, assertions and references to groups. The tree keeps the flags of scoped groups; the flags
of the whole pattern stand beside it (`CallTree.Pattern`). Every tree has a least and a greatest
width, counted in characters and capped, and a look-behind is usable only if the two agree.
-/

namespace CallTree.Pattern

/-- Switches that change how a pattern is read or matched. `locale` and `template` can be written
but never make a usable pattern of text. -/
structure Flags where
  ignoreCase : Bool := false
  multiline : Bool := false
  dotAll : Bool := false
  verbose : Bool := false
  ascii : Bool := false
  unicode : Bool := false
  locale : Bool := false
  template : Bool := false
  deriving DecidableEq, Repr

namespace Flags

/-- The flags that are in either set. -/
def union (f g : Flags) : Flags :=
  { ignoreCase := f.ignoreCase || g.ignoreCase
    multiline := f.multiline || g.multiline
    dotAll := f.dotAll || g.dotAll
    verbose := f.verbose || g.verbose
    ascii := f.ascii || g.ascii
    unicode := f.unicode || g.unicode
    locale := f.locale || g.locale
    template := f.template || g.template }

/-- The flags of `f` that are not in `g`. -/
def without (f g : Flags) : Flags :=
  { ignoreCase := f.ignoreCase && !g.ignoreCase
    multiline := f.multiline && !g.multiline
    dotAll := f.dotAll && !g.dotAll
    verbose := f.verbose && !g.verbose
    ascii := f.ascii && !g.ascii
    unicode := f.unicode && !g.unicode
    locale := f.locale && !g.locale
    template := f.template && !g.template }

/-- Whether no flag is set. -/
def isEmpty (f : Flags) : Bool := f == {}

/-- Whether two sets of flags share one. -/
def meets (f g : Flags) : Bool := !(f.without (f.without g)).isEmpty

/-- Whether one of the flags that choose a character set is in the set. -/
def hasCharset (f : Flags) : Bool := f.ascii || f.unicode || f.locale

/-- The flags in force inside a scoped group. A charset flag replaces the one in force. -/
def inScope (f added removed : Flags) : Flags :=
  let base :=
    if added.hasCharset then { f with ascii := false, unicode := false, locale := false } else f
  (base.union added).without removed

end Flags

/-- Classes of characters with a name of their own. -/
inductive Category where
  | digit
  | space
  | word
  deriving DecidableEq, Repr

/-- A member of a character set, by code points. -/
inductive SetItem where
  | code (c : Nat)
  | range (lo hi : Nat)
  | category (negated : Bool) (k : Category)
  deriving DecidableEq, Repr

/-- Conditions on a place between characters. -/
inductive Anchor where
  | lineStart
  | lineEnd
  | textStart
  | textEnd
  | boundary
  | noBoundary
  deriving DecidableEq, Repr

/-- How a repetition chooses its count: the most first, the fewest first, or the most for good. -/
inductive Greed where
  | greedy
  | lazy
  | possessive
  deriving DecidableEq, Repr

/-- **`Regex`** — a pattern tree. `char` is one character, or any other one; `backref` keeps the
width that its group had when the reference was read. -/
inductive Regex where
  | empty
  | char (negated : Bool) (code : Nat)
  | oneOf (negated : Bool) (items : List SetItem)
  | anyChar
  | anchor (a : Anchor)
  | seq (first second : Regex)
  | either (first second : Regex)
  | repeated (greed : Greed) (least : Nat) (most : Option Nat) (body : Regex)
  | group (index : Option Nat) (added removed : Flags) (body : Regex)
  | atomic (body : Regex)
  | look (ahead negated : Bool) (body : Regex)
  | backref (index : Nat) (width : Nat × Nat)
  | conditional (index : Nat) (present absent : Regex)
  deriving DecidableEq, Repr

namespace Regex

/-- No width is told apart from a larger one beyond this. -/
def widthCap : Nat := Nat.pow 2 64

/-- Counts of repetitions stay below this bound. -/
def repetitionLimit : Nat := 4294967295

/-- Widths capped. -/
def cap (w : Nat × Nat) : Nat × Nat := (min w.1 widthCap, min w.2 widthCap)

/-- **Width** — the least and the greatest number of characters that a pattern takes. -/
def width : Regex → Nat × Nat
  | .empty => (0, 0)
  | .char _ _ => (1, 1)
  | .oneOf _ _ => (1, 1)
  | .anyChar => (1, 1)
  | .anchor _ => (0, 0)
  | .seq a b =>
    let x := width a
    let y := width b
    cap (x.1 + y.1, x.2 + y.2)
  | .either a b =>
    let x := width a
    let y := width b
    (min x.1 y.1, max x.2 y.2)
  | .repeated _ least most body =>
    let w := width body
    match most with
    | some n => cap (w.1 * least, w.2 * n)
    | none => cap (w.1 * least, if w.2 = 0 then 0 else widthCap)
  | .group _ _ _ body => width body
  | .atomic body => width body
  | .look _ _ _ => (0, 0)
  | .backref _ w => w
  | .conditional _ a b =>
    let x := width a
    let y := width b
    (min x.1 y.1, max x.2 y.2)

/-- The sequence of a list of patterns. -/
def ofSequence : List Regex → Regex
  | [] => .empty
  | [r] => r
  | r :: rest => .seq r (ofSequence rest)

/-- The items of a sequence. -/
def items : Regex → List Regex
  | .empty => []
  | .seq a b => items a ++ items b
  | r => [r]

/-- The items that a scope without flags or a number stands for; any other pattern is one item. -/
def unscoped : Regex → List Regex
  | .group none added removed body =>
    if added.isEmpty && removed.isEmpty then body.items else [.group none added removed body]
  | r => [r]

/-! ## Alternatives -/

/-- The first of several patterns that matches. -/
def firstOf : List Regex → Regex
  | [] => .empty
  | [r] => r
  | r :: rest => .either r (firstOf rest)

/-- Whether a pattern is one that alternatives can share at their start: a character, a set, a
place or a reference. -/
def isShareable : Regex → Bool
  | .char _ _ => true
  | .oneOf _ _ => true
  | .anyChar => true
  | .anchor _ => true
  | .backref _ _ => true
  | _ => false

/-- Move what a sequence and the sequences after it have in common to their front: the common start
and what is left of each. -/
def commonStart : List Regex → List (List Regex) → List Regex × List (List Regex)
  | [], others => ([], [] :: others)
  | r :: rest, others =>
    if r.isShareable && others.all (fun items => items.head? = some r) then
      let (start, left) := commonStart rest (others.map List.tail)
      (r :: start, left)
    else ([], (r :: rest) :: others)

/-- The members that a sequence adds to a set, if it is one character or one set. -/
def setItems? : List Regex → Option (List SetItem)
  | [.char false code] => some [.code code]
  | [.oneOf false members] => some members
  | _ => none

/-- **Alternatives** as a sequence. What all of them start with is moved in front of them, and
alternatives of one character each become a set. -/
def ofAlternatives : List (List Regex) → List Regex
  | [] => []
  | [only] => only
  | first :: others =>
    let (start, left) := commonStart first others
    match left.mapM setItems? with
    | some members => start ++ [.oneOf false members.flatten.eraseDups]
    | none => start ++ [firstOf (left.map ofSequence)]

/-! ## Rules about whole patterns -/

/-- Every look-behind in the pattern has one width. -/
def looksBehindFixed : Regex → Bool
  | .seq a b => looksBehindFixed a && looksBehindFixed b
  | .either a b => looksBehindFixed a && looksBehindFixed b
  | .repeated _ _ _ body => looksBehindFixed body
  | .group _ _ _ body => looksBehindFixed body
  | .atomic body => looksBehindFixed body
  | .look ahead _ body => (ahead || body.width.1 = body.width.2) && looksBehindFixed body
  | .conditional _ a b => looksBehindFixed a && looksBehindFixed b
  | _ => true

/-- The greed of the first repetition in reading order, if there is any. -/
def firstRepetition : Regex → Option Greed
  | .seq a b => (firstRepetition a).or (firstRepetition b)
  | .either a b => (firstRepetition a).or (firstRepetition b)
  | .repeated greed _ _ _ => some greed
  | .group _ _ _ body => firstRepetition body
  | .atomic body => firstRepetition body
  | .look _ _ body => firstRepetition body
  | .conditional _ a b => (firstRepetition a).or (firstRepetition b)
  | _ => none

end Regex

end CallTree.Pattern
