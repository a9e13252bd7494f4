/-
# CallTree.Value — the dynamic values that calls carry and resolvers return.

Values are what a document can say (null, booleans, integers of any size, floating-point numbers,
texts, lists and objects), and five kinds that only a host can produce: octet strings, tuples,
dates, compiled search patterns, and things of its own, of which no more is known than the name of
their kind and their parts. A tuple is written like a list but is never equal to one, and most
checks that ask for a list refuse a tuple. Integers and floating-point numbers are different kinds
even where they are equal numbers.

An object is an ordered table. Its keys are expected to be distinct (`CallTree.Table`).
-/
import CallTree.Number.Binary64
import CallTree.Pattern
import CallTree.Table

namespace CallTree

/-- **`Value`** — a dynamic value. -/
inductive Value where
  | null
  | bool (b : Bool)
  | int (n : Int)
  | float (x : Binary64)
  | text (s : String)
  | octets (bs : List UInt8)
  | list (items : List Value)
  | tuple (items : List Value)
  | object (fields : List (String × Value))
  /-- A date by its text, and whether it has a time of day. -/
  | date (text : String) (hasTime : Bool)
  | pattern (p : Pattern)
  | foreign (kindName : String) (parts : List (String × Value))
  deriving Inhabited

namespace Value

/-- The kind of a value: which of the cases it is. -/
inductive Kind where
  | null
  | bool
  | int
  | float
  | text
  | octets
  | list
  | tuple
  | object
  | date (hasTime : Bool)
  | pattern
  | foreign (name : String)
  deriving DecidableEq, Repr

/-- The kind of a value. -/
def kind : Value → Kind
  | .null => .null
  | .bool _ => .bool
  | .int _ => .int
  | .float _ => .float
  | .text _ => .text
  | .octets _ => .octets
  | .list _ => .list
  | .tuple _ => .tuple
  | .object _ => .object
  | .date _ hasTime => .date hasTime
  | .pattern _ => .pattern
  | .foreign name _ => .foreign name

/-- The name of a kind in validation messages. -/
def Kind.name : Kind → String
  | .null => "null"
  | .bool => "bool"
  | .int => "int"
  | .float => "float"
  | .text => "str"
  | .octets => "bytes"
  | .list => "list"
  | .tuple => "tuple"
  | .object => "dict"
  | .date hasTime => if hasTime then "datetime" else "date"
  | .pattern => "Pattern"
  | .foreign name => name

/-- The name of a kind where the kind itself is at fault. -/
def Kind.faultName : Kind → String
  | .null => "NoneType"
  | .date hasTime => if hasTime then "datetime.datetime" else "datetime.date"
  | .pattern => "re.Pattern"
  | k => k.name

/-- Whether a value is null. -/
def isNull : Value → Bool
  | .null => true
  | _ => false

/-- Whether a value is a number; a boolean is none. -/
def isNumber : Value → Bool
  | .int _ => true
  | .float _ => true
  | _ => false

/-- The items of a list or tuple. -/
def items? : Value → Option (List Value)
  | .list xs => some xs
  | .tuple xs => some xs
  | _ => none

/-- Whether a value counts as true: everything but null, false, the zeros and what is empty. -/
def truthy : Value → Bool
  | .null => false
  | .bool b => b
  | .int n => n ≠ 0
  | .float (.finite _ units) => units ≠ 0
  | .float _ => true
  | .text s => s ≠ ""
  | .octets bs => !bs.isEmpty
  | .list xs => !xs.isEmpty
  | .tuple xs => !xs.isEmpty
  | .object fs => !fs.isEmpty
  | .date _ _ => true
  | .pattern _ => true
  | .foreign _ _ => true

/-! ## Keys

Only some values can be looked up in a table: a list, an object, or a tuple that holds one, cannot.
-/

mutual

/-- The kind that keeps a value from being looked up in a table, if any does. -/
def unkeyable? : Value → Option Kind
  | .list _ => some .list
  | .object _ => some .object
  | .tuple items => unkeyableItem? items
  | _ => none

/-- The first kind among items that keeps them from being looked up. -/
def unkeyableItem? : List Value → Option Kind
  | [] => none
  | v :: rest => (unkeyable? v).or (unkeyableItem? rest)

end

/-! ## Building -/

/-- An object of one field. -/
def single (key : String) (value : Value) : Value := .object [(key, value)]

/-- The fields of an object; any other value has none. -/
def fields : Value → Table Value
  | .object fs => fs
  | _ => []

/-- The parts of a thing of the host; any other value has none. -/
def parts : Value → Table Value
  | .foreign _ ps => ps
  | _ => []

end Value

end CallTree
