/-
# CallTree.Yaml.Fault — what can be wrong with a document.

A fault has a place, shown with the line around it, and mostly tells what was being read and where
that began. Its stage says which part of reading found it: the characters of the document, the
tokens that they form, their order, the references between nodes, or what the nodes stand for. Other
faults lie in a single scalar and are reported without a place.
-/
import CallTree.Text.Quoted
import CallTree.Text.Utf8
import CallTree.Yaml.Cursor
import CallTree.Yaml.Scalar

namespace CallTree.Yaml

/-- The part of reading that finds a fault with a place. -/
inductive Stage where
  | token
  | order
  | reference
  | meaning
  deriving DecidableEq, Repr

/-- What was being read. -/
inductive Activity where
  | nextToken
  | simpleKey
  | directive
  | directiveAddress
  | alias
  | anchor
  | tag
  | tagAddress
  | blockScalar
  | doubleQuoted
  | quoted
  | node
  | blockNode
  | flowNode
  | blockCollection
  | blockMapping
  | flowSequence
  | flowMapping
  | firstAnchor (name : String)
  | singleDocument
  | mapping
  | orderedMapping
  | pairs
  deriving DecidableEq, Repr

/-- An activity as faults name it. -/
def Activity.text : Activity → String
  | .nextToken => "while scanning for the next token"
  | .simpleKey => "while scanning a simple key"
  | .directive => "while scanning a directive"
  | .directiveAddress => "while parsing a directive"
  | .alias => "while scanning an alias"
  | .anchor => "while scanning an anchor"
  | .tag => "while scanning a tag"
  | .tagAddress => "while parsing a tag"
  | .blockScalar => "while scanning a block scalar"
  | .doubleQuoted => "while scanning a double-quoted scalar"
  | .quoted => "while scanning a quoted scalar"
  | .node => "while parsing a node"
  | .blockNode => "while parsing a block node"
  | .flowNode => "while parsing a flow node"
  | .blockCollection => "while parsing a block collection"
  | .blockMapping => "while parsing a block mapping"
  | .flowSequence => "while parsing a flow sequence"
  | .flowMapping => "while parsing a flow mapping"
  | .firstAnchor name => "found duplicate anchor " ++ Text.Quoted.text name ++ "; first occurrence"
  | .singleDocument => "expected a single document in the stream"
  | .mapping => "while constructing a mapping"
  | .orderedMapping => "while constructing an ordered map"
  | .pairs => "while constructing pairs"

/-- What is wrong. -/
inductive Problem where
  | noTokenStart (c : Char)
  | noColon
  | noItemHere
  | noKeyHere
  | noValueHere
  /-- Another character than expected. -/
  | expected (what : String) (found : Char)
  | zeroIndent
  | unknownEscape (c : Char)
  | endOfDocument
  | separator
  | octets (f : Text.Utf8.Fault)
  /-- Another token than expected. -/
  | expectedToken (what found : String)
  | expectedComma (closing found : String)
  | repeatedVersion
  | otherVersion
  | repeatedHandle (handle : String)
  | unknownHandle (handle : String)
  | tooDeep
  | unknownAlias (name : String)
  | secondAnchor
  | anotherDocument
  | unkeyable
  /-- Another kind of node than expected. -/
  | expectedNode (what found : String)
  | severalEntries (count : Nat)
  | unknownTag (tag : String)
  /-- Characters outside ASCII, where octets to the base 64 should be. -/
  | nonAscii (run : List Char) (position : Nat)
  /-- Characters of octets to the base 64 that are one too many. -/
  | looseCharacter (count : Nat)
  | padding
  deriving DecidableEq, Repr

/-- A character in quotes. -/
def quotedChar (c : Char) : String := Text.Quoted.text (String.singleton c)

/-- The sentence of a problem. -/
def Problem.text : Problem → String
  | .noTokenStart c => "found character " ++ quotedChar c ++ " that cannot start any token"
  | .noColon => "could not find expected ':'"
  | .noItemHere => "sequence entries are not allowed here"
  | .noKeyHere => "mapping keys are not allowed here"
  | .noValueHere => "mapping values are not allowed here"
  | .expected what found => "expected " ++ what ++ ", but found " ++ quotedChar found
  | .zeroIndent => "expected indentation indicator in the range 1-9, but found 0"
  | .unknownEscape c => "found unknown escape character " ++ quotedChar c
  | .endOfDocument => "found unexpected end of stream"
  | .separator => "found unexpected document separator"
  | .octets f => f.message
  | .expectedToken what found => "expected " ++ what ++ ", but found " ++ Text.Quoted.text found
  | .expectedComma closing found =>
    "expected ',' or '" ++ closing ++ "', but got " ++ Text.Quoted.text found
  | .repeatedVersion => "found duplicate YAML directive"
  | .otherVersion => "found incompatible YAML document (version 1.* is required)"
  | .repeatedHandle handle => "duplicate tag handle " ++ Text.Quoted.text handle
  | .unknownHandle handle => "found undefined tag handle " ++ Text.Quoted.text handle
  | .tooDeep => "found too many levels of nesting"
  | .unknownAlias name => "found undefined alias " ++ Text.Quoted.text name
  | .secondAnchor => "second occurrence"
  | .anotherDocument => "but found another document"
  | .unkeyable => "found unhashable key"
  | .expectedNode what found => "expected " ++ what ++ ", but found " ++ found
  | .severalEntries count =>
    "expected a single mapping item, but found " ++ toString count ++ " items"
  | .unknownTag tag => "could not determine a constructor for the tag " ++ Text.Quoted.text tag
  | .nonAscii run position =>
    let found := match run with
      | [c] => "character '" ++ String.ofList (Text.Quoted.escapedCode c) ++ "' in position " ++
        toString position
      | _ => "characters in position " ++ toString position ++ "-" ++
        toString (position + run.length - 1)
    "failed to convert base64 data into ascii: 'ascii' codec can't encode " ++ found ++
      ": ordinal not in range(128)"
  | .looseCharacter count =>
    "failed to decode base64 data: Invalid base64-encoded string: number of data characters (" ++
      toString count ++ ") cannot be 1 more than a multiple of 4"
  | .padding => "failed to decode base64 data: Incorrect padding"

/-! ## Places -/

/-- The name of a document that is a text. -/
def documentName : String := "\x22<unicode string>\x22"

/-- A line is cut where it goes on for so many characters from the place that is shown. -/
def excerptLimit : Nat := 37

/-- So many characters of a line that is cut are shown on one side. -/
def excerptLength : Nat := 32

/-- The mark of a cut. -/
def cutMark : List Char := " ... ".toList

/-- The characters of one side of a line, and the mark of a cut if they are too many. -/
def excerptSide (cs : List Char) : List Char × List Char :=
  if excerptLimit ≤ cs.length then (cs.take excerptLength, cutMark) else (cs, [])

/-- The line around a place, with a caret below it. -/
def Mark.excerpt (m : Mark) (source : List Char) : String :=
  let inLine (c : Char) : Bool := !endsLine c
  let (before, head) := excerptSide ((source.take m.index).reverse.takeWhile inLine)
  let (after, tail) := excerptSide ((source.drop m.index).takeWhile inLine)
  let indent := List.replicate 4 ' '
  String.ofList (indent ++ head ++ before.reverse ++ after ++ tail ++ ['\n'] ++ indent ++
    List.replicate (head.length + before.length) ' ' ++ ['^'])

/-- A place in the message of a fault. -/
def Mark.text (m : Mark) (source : List Char) : String :=
  "  in " ++ documentName ++ ", line " ++ toString (m.line + 1) ++ ", column " ++
    toString (m.column + 1) ++ ":\n" ++ m.excerpt source

/-! ## Faults -/

/-- **`Misreading`** — a fault with a place. -/
structure Misreading where
  stage : Stage
  activity : Option Activity := none
  /-- Where the activity began. -/
  since : Option Mark := none
  problem : Problem
  mark : Mark
  deriving DecidableEq, Repr

/-- The message of a misreading of a document. The place where the activity began is not repeated.
-/
def Misreading.message (source : List Char) (f : Misreading) : String :=
  let started : List String :=
    match f.activity with
    | none => []
    | some a =>
      a.text :: match f.since with
        | some m => if m.line = f.mark.line && m.column = f.mark.column then [] else [m.text source]
        | none => []
  "\n".intercalate (started ++ [f.problem.text, f.mark.text source])

/-- **`Fault`** — why a document cannot be read. -/
inductive Fault where
  /-- A character that no document may hold. -/
  | character (c : Char) (position : Nat)
  | misread (f : Misreading)
  /-- The escape of a code that no character has. -/
  | code (n : Nat)
  | scalar (f : ScalarFault)
  deriving DecidableEq, Repr

/-- Codes from here on are too large to be looked at. -/
def codeLimit : Nat := 0x80000000

/-- The message of a fault of a document. -/
def Fault.message (source : List Char) : Fault → String
  | .character c position =>
    "unacceptable character #x" ++ String.ofList (Text.Quoted.hex 4 c.toNat) ++
      ": special characters are not allowed\n  in " ++ documentName ++ ", position " ++
      toString position
  | .misread f => f.message source
  | .code n =>
    if n < codeLimit then "chr() arg not in range(0x110000)"
    else "Python int too large to convert to C int"
  | .scalar f => f.message

end CallTree.Yaml
