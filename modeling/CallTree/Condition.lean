/-
# CallTree.Condition — condition sets of conditional blocks.

A condition set is an object from operators to `[field, expected]`; it holds of an output object if
every entry does. A set is checked as a whole before any entry is evaluated, and the entries are
evaluated in order up to the first that does not hold. A missing field counts as null.

Operands that cannot be compared make an entry false. Only two things can go wrong once a set has
been checked: a pattern that cannot be asked about a text, and an octet string that is asked about a
number that is no octet.
-/
import CallTree.Value.Compare
import CallTree.Value.Literal

namespace CallTree.Condition

/-- The operators of conditions. -/
inductive Operator where
  | eql
  | nql
  | lt
  | gt
  | lte
  | gte
  | truthy
  | falsy
  | matches
  | contains
  deriving DecidableEq, Repr

namespace Operator

/-- The name of an operator. -/
def name : Operator → String
  | .eql => "eql"
  | .nql => "nql"
  | .lt => "lt"
  | .gt => "gt"
  | .lte => "lte"
  | .gte => "gte"
  | .truthy => "truthy"
  | .falsy => "falsy"
  | .matches => "match"
  | .contains => "contains"

/-- All operators. -/
def all : List Operator :=
  [.eql, .nql, .lt, .gt, .lte, .gte, .truthy, .falsy, .matches, .contains]

/-- The operator of a name. -/
def ofName? (s : String) : Option Operator := all.find? (·.name = s)

/-- Whether an operator looks at the field alone. -/
def isUnary : Operator → Bool
  | .truthy => true
  | .falsy => true
  | _ => false

theorem ofName?_name (o : Operator) : ofName? o.name = some o := by cases o <;> decide

end Operator

/-! ## Patterns in conditions -/

/-- Why a value is no search pattern. -/
inductive PatternFault where
  /-- The text of the pattern is faulty; the sentence says how. -/
  | refused (sentence : String)
  | countTooLarge
  | tooManyDigits (count : Nat)
  | charsetContradiction (sentence : String)
  /-- The value is of a kind that cannot be looked up among known patterns. -/
  | unkeyable (k : Value.Kind)
  | noPattern
  deriving DecidableEq, Repr

/-- The sentence of a pattern fault. -/
def PatternFault.message : PatternFault → String
  | .refused sentence => sentence
  | .countTooLarge => "the repetition number is too large"
  | .tooManyDigits count => Reading.tooManyDigitsMessage count
  | .charsetContradiction sentence => sentence
  | .unkeyable k => "unhashable type: '" ++ k.faultName ++ "'"
  | .noPattern => "first argument must be string or compiled pattern"

/-- A fault in the text of a pattern. -/
def PatternFault.ofFault (source : List Char) (ascii : Bool) (f : Pattern.Fault) : PatternFault :=
  match f with
  | .refused _ _ => .refused (f.message source ascii)
  | .countTooLarge => .countTooLarge
  | .tooManyDigits count => .tooManyDigits count
  | .charsetContradiction _ _ => .charsetContradiction (f.message source ascii)

/-- Read a value as a search pattern. -/
def readPattern : Value → Except PatternFault Pattern
  | .pattern p => .ok p
  | .text s => (Pattern.ofText s).mapError (PatternFault.ofFault s.toList false)
  | .octets bs =>
    (Pattern.ofOctets bs).mapError
      (PatternFault.ofFault (bs.map fun b => Char.ofNat b.toNat) true)
  | v =>
    match v.unkeyable? with
    | some k => .error (.unkeyable k)
    | none => .error .noPattern

/-! ## Comparing -/

/-- What can go wrong in comparing two values. -/
inductive CompareFault where
  | pattern (f : PatternFault)
  /-- A pattern cannot be asked about a text. -/
  | search (f : Pattern.SearchFault)
  /-- An octet string is asked about a number that is no octet. -/
  | noOctet
  deriving DecidableEq, Repr

/-- The sentence of a compare fault. -/
def CompareFault.message : CompareFault → String
  | .pattern f => f.message
  | .search f => f.message
  | .noOctet => "byte must be in range(0, 256)"

/-- Whether the pattern that `expected` stands for occurs in a text; no other value matches. -/
def matchesPattern (v expected : Value) : Except CompareFault Bool :=
  match v with
  | .text s =>
    match readPattern expected with
    | .error f => .error (.pattern f)
    | .ok p => (p.occursIn s).mapError .search
  | _ => .ok false

/-- **Compare** a value with what is expected of it. -/
def compare (o : Operator) (v expected : Value) : Except CompareFault Bool :=
  match o with
  | .eql => .ok (v.strictlySame expected)
  | .nql => .ok (!v.strictlySame expected)
  | .lt => .ok ((Value.ordered? .less v expected).getD false)
  | .gt => .ok ((Value.ordered? .greater v expected).getD false)
  | .lte => .ok ((Value.ordered? .lessOrSame v expected).getD false)
  | .gte => .ok ((Value.ordered? .greaterOrSame v expected).getD false)
  | .truthy => .ok v.truthy
  | .falsy => .ok (!v.truthy)
  | .matches => matchesPattern v expected
  | .contains => (v.contains expected).mapError fun _ => .noOctet

/-! ## Condition sets -/

/-- What is wrong with a condition set. -/
inductive SetFault where
  | noObject
  | unknownOperator (name : String)
  | malformed (o : Operator)
  /-- The pattern of an entry is faulty. -/
  | badPattern (f : PatternFault)
  deriving DecidableEq, Repr

/-- The sentence of a set fault. -/
def SetFault.message : SetFault → String
  | .noObject => "Conditions must be provided as an object."
  | .unknownOperator name => "Unknown condition operator \"" ++ name ++ "\"."
  | .malformed o => "Condition \"" ++ o.name ++ "\" must be a [fieldName, expectedValue] array."
  | .badPattern f =>
    match f with
    | .countTooLarge => f.message
    | .tooManyDigits _ => f.message
    | .charsetContradiction _ => f.message
    | _ => "Condition \"match\" has an invalid pattern: " ++ f.message

/-- One condition: an operator, the field it looks at, and what it expects. -/
structure Entry where
  operator : Operator
  field : String
  expected : Value

/-- Read one entry of a condition set. -/
def readEntry (name : String) (v : Value) : Except SetFault Entry :=
  match Operator.ofName? name with
  | none => .error (.unknownOperator name)
  | some o =>
    match v.items? with
    | some (.text field :: operands) =>
      if !o.isUnary && operands.length ≠ 1 then .error (.malformed o)
      else
        let expected := operands.headD .null
        if o = .matches then
          match readPattern expected with
          | .error f => .error (.badPattern f)
          | .ok _ => .ok ⟨o, field, expected⟩
        else .ok ⟨o, field, expected⟩
    | _ => .error (.malformed o)

/-- Read the entries of a condition set, in order. -/
def readEntries : Table Value → Except SetFault (List Entry)
  | [] => .ok []
  | (name, v) :: rest =>
    match readEntry name v with
    | .error f => .error f
    | .ok e => (readEntries rest).map (e :: ·)

/-- **Read** a condition set. -/
def read : Value → Except SetFault (List Entry)
  | .object fs => readEntries fs
  | _ => .error .noObject

/-- Whether an entry holds of an output. -/
def Entry.holds (e : Entry) (output : Table Value) : Except CompareFault Bool :=
  compare e.operator ((output.get? e.field).getD .null) e.expected

/-- Whether all entries hold of an output, evaluated up to the first that does not. -/
def allHold (output : Table Value) : List Entry → Except CompareFault Bool
  | [] => .ok true
  | e :: rest =>
    match e.holds output with
    | .error f => .error f
    | .ok true => allHold output rest
    | .ok false => .ok false

/-- What can go wrong with a condition set and an output. -/
inductive Fault where
  | set (f : SetFault)
  | compare (f : CompareFault)
  deriving DecidableEq, Repr

/-- The sentence of a fault. -/
def Fault.message : Fault → String
  | .set f => f.message
  | .compare f => f.message

/-- **Whether a condition set holds** of an output. -/
def pass (conditions : Value) (output : Table Value) : Except Fault Bool :=
  match read conditions with
  | .error f => .error (.set f)
  | .ok entries => (allHold output entries).mapError .compare

end CallTree.Condition
