/-
# CallTree.Pattern.Fault — what can be wrong with the text of a pattern.

Every cause has one sentence. Most faults have a place in the pattern, counted in characters; if the
pattern has several lines, the place is also given by line and column. Three faults are of other
kinds: a repetition count that no counter holds or that has too many digits, and charset flags that
contradict each other over the whole pattern.
-/
import CallTree.Number.Reading
import CallTree.Text.Split
import CallTree.Text.Quoted

namespace CallTree.Pattern

/-- Why a pattern is refused. -/
inductive Cause where
  | escapeAtEnd
  | badEscape (token : String)
  | incompleteEscape (token : String)
  | octalTooLarge (token : String)
  | missingBrace
  | unknownCharacterName (name : String)
  | missingName (what : String)
  | unterminatedName (terminator : Char)
  | badGroupName (name : String)
  | unknownGroup (name : String)
  | repeatedGroup (name : String) (again first : Nat)
  | openGroup
  | lookbehindGroup
  | invalidReference (index : Nat)
  | badGroupNumber
  | tooManyBranches
  | unterminatedSet
  | badRange (lo hi : String)
  | nothingToRepeat
  | multipleRepeat
  | bounds
  | unexpectedEnd
  | unknownExtension (mark : String)
  | unterminatedComment
  | unterminatedGroup
  | unbalanced
  | lateFlags
  | localeOnText
  | unicodeOnOctets
  | charsetClash
  | charsetOff
  | globalOn
  | globalOff
  | flagOnAndOff
  | unknownFlag
  | flagsUnfinished
  | missingFlag
  | missingColon
  | looseLookbehind
  | templateRepetition (operator : String)
  deriving DecidableEq, Repr

/-- The sentence of a cause. -/
def Cause.message : Cause → String
  | .escapeAtEnd => "bad escape (end of pattern)"
  | .badEscape token => "bad escape " ++ token
  | .incompleteEscape token => "incomplete escape " ++ token
  | .octalTooLarge token => "octal escape value " ++ token ++ " outside of range 0-0o377"
  | .missingBrace => "missing \x7b"
  | .unknownCharacterName name => "undefined character name " ++ Text.Quoted.text name
  | .missingName what => "missing " ++ what
  | .unterminatedName terminator =>
    "missing " ++ String.singleton terminator ++ ", unterminated name"
  | .badGroupName name => "bad character in group name " ++ Text.Quoted.text name
  | .unknownGroup name => "unknown group name " ++ Text.Quoted.text name
  | .repeatedGroup name again first =>
    "redefinition of group name " ++ Text.Quoted.text name ++ " as group " ++ toString again ++
      "; was group " ++ toString first
  | .openGroup => "cannot refer to an open group"
  | .lookbehindGroup => "cannot refer to group defined in the same lookbehind subpattern"
  | .invalidReference index => "invalid group reference " ++ toString index
  | .badGroupNumber => "bad group number"
  | .tooManyBranches => "conditional backref with more than two branches"
  | .unterminatedSet => "unterminated character set"
  | .badRange lo hi => "bad character range " ++ lo ++ "-" ++ hi
  | .nothingToRepeat => "nothing to repeat"
  | .multipleRepeat => "multiple repeat"
  | .bounds => "min repeat greater than max repeat"
  | .unexpectedEnd => "unexpected end of pattern"
  | .unknownExtension mark => "unknown extension ?" ++ mark
  | .unterminatedComment => "missing ), unterminated comment"
  | .unterminatedGroup => "missing ), unterminated subpattern"
  | .unbalanced => "unbalanced parenthesis"
  | .lateFlags => "global flags not at the start of the expression"
  | .localeOnText => "bad inline flags: cannot use 'L' flag with a str pattern"
  | .unicodeOnOctets => "bad inline flags: cannot use 'u' flag with a bytes pattern"
  | .charsetClash => "bad inline flags: flags 'a', 'u' and 'L' are incompatible"
  | .charsetOff => "bad inline flags: cannot turn off flags 'a', 'u' and 'L'"
  | .globalOn => "bad inline flags: cannot turn on global flag"
  | .globalOff => "bad inline flags: cannot turn off global flag"
  | .flagOnAndOff => "bad inline flags: flag turned on and off"
  | .unknownFlag => "unknown flag"
  | .flagsUnfinished => "missing -, : or )"
  | .missingFlag => "missing flag"
  | .missingColon => "missing :"
  | .looseLookbehind => "look-behind requires fixed-width pattern"
  | .templateRepetition operator => "internal: unsupported template operator " ++ operator

/-- **`Fault`** — a refused pattern: a cause and a place, or one of the faults of another kind. -/
inductive Fault where
  | refused (cause : Cause) (position : Option Nat)
  | countTooLarge
  | tooManyDigits (count : Nat)
  | charsetContradiction (left right : String)
  deriving DecidableEq, Repr

/-- Where a refused pattern goes wrong, in words. -/
def placeText (cs : List Char) (position : Nat) : String :=
  let lines :=
    if cs.contains '\n' then
      let (line, column) := Text.lineAndColumn cs position
      " (line " ++ toString line ++ ", column " ++ toString column ++ ")"
    else ""
  " at position " ++ toString position ++ lines

/-- The sentence that reports a fault in the pattern `cs`. In patterns of octets (`ascii`) the
sentence escapes what is not ASCII. -/
def Fault.message (cs : List Char) (ascii : Bool) : Fault → String
  | .refused cause position =>
    let escape (c : Char) : List Char :=
      if ascii && 0x80 ≤ c.toNat then '\\' :: 'x' :: Text.Quoted.hex 2 c.toNat else [c]
    String.ofList (cause.message.toList.flatMap escape) ++
      (match position with
      | some p => placeText cs p
      | none => "")
  | .countTooLarge => "the repetition number is too large"
  | .tooManyDigits count => Reading.tooManyDigitsMessage count
  | .charsetContradiction left right => left ++ " and " ++ right ++ " flags are incompatible"

end CallTree.Pattern
