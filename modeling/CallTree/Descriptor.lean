/-
# CallTree.Descriptor — declared types and the tokens that name them.

A declared type is written as a token: a name, a name with the marker `!` at its end (the value may
not be null), or a list of one such text (a list of values). `ofToken` reads any value as far as it
goes; `isToken` says which values are tokens proper. On those, reading loses nothing
(`token` gives the token back), and the name that results is not empty and holds no marker.
-/
import CallTree.Value

namespace CallTree

/-- **`Descriptor`** — a declared type: the name of a native or custom type, whether values come as
a list of it, and whether they may be null. -/
structure Descriptor where
  name : String
  isArray : Bool := false
  isRequired : Bool := false
  isNative : Bool := false
  deriving DecidableEq, Repr

/-- Types that need no declaration. -/
inductive Native where
  | object
  | text
  | number
  | boolean
  deriving DecidableEq, Repr

namespace Native

/-- The name of a native type. -/
def name : Native → String
  | .object => "Object"
  | .text => "String"
  | .number => "Number"
  | .boolean => "Boolean"

/-- The native type of a name. -/
def ofName? (s : String) : Option Native :=
  if s = "Object" then some .object
  else if s = "String" then some .text
  else if s = "Number" then some .number
  else if s = "Boolean" then some .boolean
  else none

/-- Whether a value is of a native type. A boolean is no number, and only objects are objects. -/
def accepts : Native → Value → Bool
  | .object, .object _ => true
  | .text, .text _ => true
  | .number, .int _ => true
  | .number, .float _ => true
  | .boolean, .bool _ => true
  | _, _ => false

theorem ofName?_name (n : Native) : ofName? n.name = some n := by cases n <;> decide

end Native

/-- Whether a value is of the native type of a name; under any other name nothing is. -/
def acceptsNamed (typeName : String) (v : Value) : Bool :=
  match Native.ofName? typeName with
  | some n => n.accepts v
  | none => false

namespace Descriptor

/-- The marker of types whose values may not be null. -/
def marker : Char := '!'

/-- A name without a marker at its end, and whether there was one. -/
def splitMarker (s : String) : String × Bool :=
  if s.toList.getLast? = some marker then (String.ofList s.toList.dropLast, true) else (s, false)

/-- A name with the marker at its end, if it is required. -/
def markedName (d : Descriptor) : String := if d.isRequired then d.name.push marker else d.name

/-- The token of a descriptor. -/
def token (d : Descriptor) : Value :=
  if d.isArray then .list [.text d.markedName] else .text d.markedName

/-- The descriptor in messages. -/
def display (d : Descriptor) : String :=
  if d.isArray then "[" ++ d.markedName ++ "]" else d.markedName

/-- The descriptor of a text, as the type of a value or of the items of a list. -/
def ofName (isArray : Bool) (s : String) : Descriptor :=
  let (name, isRequired) := splitMarker s
  { name, isArray, isRequired, isNative := (Native.ofName? name).isSome }

/-- Why a value cannot be read as a token at all. -/
inductive TokenFault where
  /-- A list or tuple without an item. -/
  | noItem (k : Value.Kind)
  /-- What should be a name is no text. -/
  | noName (k : Value.Kind)
  /-- What should be a name is octets; a text cannot be their end. -/
  | octets
  deriving DecidableEq, Repr

/-- The sentence of a token fault. -/
def TokenFault.message : TokenFault → String
  | .noItem k => k.name ++ " index out of range"
  | .noName k => "'" ++ k.faultName ++ "' object has no attribute 'endswith'"
  | .octets => "endswith first arg must be bytes or a tuple of bytes, not str"

/-- Why what should be a name is none. -/
def TokenFault.ofName : Value → TokenFault
  | .octets _ => .octets
  | v => .noName v.kind

/-- Read a value as a token. Of a list or tuple, the first item counts. -/
def ofToken : Value → Except TokenFault Descriptor
  | .text s => .ok (ofName false s)
  | .list (.text s :: _) => .ok (ofName true s)
  | .tuple (.text s :: _) => .ok (ofName true s)
  | .list [] => .error (.noItem .list)
  | .tuple [] => .error (.noItem .tuple)
  | .list (v :: _) => .error (.ofName v)
  | .tuple (v :: _) => .error (.ofName v)
  | v => .error (.ofName v)

/-- Whether a text is a type name, with or without the marker. -/
def isNameToken (s : String) : Bool :=
  let name := (splitMarker s).1
  name ≠ "" && !name.toList.contains marker

/-- Whether a value is a token proper. -/
def isToken : Value → Bool
  | .text s => isNameToken s
  | .list [.text s] => isNameToken s
  | .tuple [.text s] => isNameToken s
  | _ => false

end Descriptor

end CallTree
