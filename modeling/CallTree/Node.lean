/-
# CallTree.Node — call trees.

A call is a name, arguments (an object or none) and child calls. Two names are operators of the
engine: `::compose` asks for several calls at once, `::when` makes its children conditional on what
the calls beside it gave.
-/
import CallTree.Table
import CallTree.Value

namespace CallTree

/-- **`Node`** — a call: its name, its arguments, and the calls below it. -/
inductive Node where
  | mk (name : String) (args : Option (Table Value)) (children : List Node)
  deriving Inhabited

namespace Node

/-- The operator that asks for several calls. -/
def composeName : String := "::compose"

/-- The operator that makes calls conditional. -/
def whenName : String := "::when"

/-- The name of a call. -/
def name : Node → String
  | .mk name _ _ => name

/-- The arguments of a call. -/
def args : Node → Option (Table Value)
  | .mk _ args _ => args

/-- The calls below a call. -/
def children : Node → List Node
  | .mk _ _ children => children

/-- A call by name alone. -/
def leaf (name : String) : Node := .mk name none []

/-- Whether a call composes others. -/
def isCompose (n : Node) : Bool := n.name = composeName

/-- Whether a call makes others conditional. -/
def isWhen (n : Node) : Bool := n.name = whenName

/-- Whether a call is an operator. -/
def isMeta (n : Node) : Bool := n.isCompose || n.isWhen

/-! ## Written form -/

mutual

/-- The written form of a call: a bare name if that says it all, else a list of the name, the
arguments if there are any, and the written children. An operator is always a list. -/
def written : Node → Value
  | .mk name none [] =>
    if name = composeName || name = whenName then .list [.text name] else .text name
  | .mk name none children => .list (.text name :: writtenAll children)
  | .mk name (some args) children => .list (.text name :: .object args :: writtenAll children)

/-- The written forms of calls. -/
def writtenAll : List Node → List Value
  | [] => []
  | n :: rest => written n :: writtenAll rest

end

end Node

end CallTree
