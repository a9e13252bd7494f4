/-
# CallTree.Json.Plain — values of the host as documents can say them.

A tuple becomes a list and an octet string the text that it encodes; what becomes of other values
that documents cannot say is a matter of rules. The first octet string that encodes no text is the
fault.
-/
import CallTree.Text.Utf8
import CallTree.Value

namespace CallTree.Json

/-- How values become plain. -/
structure Rules where
  /-- What stands for a floating-point number. -/
  float : Binary64 → Value
  /-- Whether a field with this key is kept. -/
  keeps : String → Bool

namespace Rules

/-- What is no number, and the infinities, become null. -/
def lenient : Rules where
  float x :=
    match x with
    | .finite _ _ => .float x
    | _ => .null
  keeps _ := true

/-- Numbers stay as they are; fields for internal use are left out. -/
def strict : Rules where
  float := .float
  keeps key := !"_sa".toList.isPrefixOf key.toList

end Rules

mutual

/-- **The plain form** of a value. -/
def plain (r : Rules) : Value → Except Text.Utf8.Fault Value
  | .float x => .ok (r.float x)
  | .octets bs => (Text.Utf8.decode bs).map .text
  | .list xs => (plainItems r xs).map .list
  | .tuple xs => (plainItems r xs).map .list
  | .object fs => (plainFields r fs).map .object
  | v => .ok v

/-- The plain forms of items. -/
def plainItems (r : Rules) : List Value → Except Text.Utf8.Fault (List Value)
  | [] => .ok []
  | v :: rest =>
    match plain r v with
    | .error f => .error f
    | .ok w => (plainItems r rest).map (w :: ·)

/-- The plain forms of the fields that are kept. -/
def plainFields (r : Rules) :
    List (String × Value) → Except Text.Utf8.Fault (List (String × Value))
  | [] => .ok []
  | (k, v) :: rest =>
    if r.keeps k then
      match plain r v with
      | .error f => .error f
      | .ok w => (plainFields r rest).map ((k, w) :: ·)
    else plainFields r rest

end

end CallTree.Json
