/-
# CallTree.Registry — the declared types of a graph and its entry points.

A registry holds a chunk of fields for every custom type, and one for the queries, which are the
fields a request starts from. A field has a type, a contract for its arguments, a resolver, and
possibly a description. Registries do not change; `CallTree.Registry.Draft` builds them.

`describe` exports everything about a registry except its resolvers.
-/
import CallTree.Check
import CallTree.Resolver

namespace CallTree

/-- **`Field`** — a field of a type, or a query. -/
structure Field where
  name : String
  type : Descriptor
  resolve : Resolver
  expect : Contract := []
  description : Value := .null

/-- The fields of one type, by name. -/
abbrev Chunk := Table Field

namespace Field

/-- The tokens of a contract. -/
def expectValue (contract : Contract) : Value := .object (contract.mapValues Descriptor.token)

/-- What is told of a field: its type, its contract unless that is empty, and its description if it
has one. -/
def describe (f : Field) : Value :=
  .object ([("type", f.type.token)]
    ++ (if f.expect.isEmpty then [] else [("expect", expectValue f.expect)])
    ++ (if f.description.truthy then [("description", f.description)] else []))

end Field

/-- **`Registry`** — custom types by name, and the queries. -/
structure Registry where
  types : Table Chunk := []
  root : Chunk := []

namespace Registry

/-- The name under which the queries count as a type. -/
def rootName : String := "Root"

/-- Whether a custom type is declared. -/
def hasType (r : Registry) (name : String) : Bool := r.types.has name

/-- Whether a name stands for the queries or a custom type. -/
def contains (r : Registry) (name : String) : Bool := name = rootName || r.hasType name

/-- The fields under a name, of the queries or of a custom type. -/
def chunk? (r : Registry) (name : String) : Option Chunk :=
  if name = rootName then some r.root else r.types.get? name

/-- The sentence about a name that stands for no type. -/
def undefinedMessage (name : String) : String := "Type name \"" ++ name ++ "\" is not defined."

/-- **The description** of a registry. -/
def describe (r : Registry) : Value :=
  .object [
    ("types", .object (r.types.mapValues fun chunk => .object (chunk.mapValues Field.describe))),
    ("queries", .object (r.root.mapValues Field.describe))]

end Registry

namespace Check

/-- The type of a custom-typed field has to be declared. -/
def declared (r : Registry) (d : Descriptor) : Except ResultFault Unit :=
  if r.hasType d.name then .ok () else .error (.undefinedType d.name)

end Check

end CallTree
