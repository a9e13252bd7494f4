/-
# CallTree.Example.People — a small registry to try things on.

One person with two friends, a query for the person, a query by identifier, and a query of a native
type that is returned as it is.
-/
import CallTree.Registry
import CallTree.Text.Quoted

namespace CallTree.Example

/-- A friend without a role. -/
def plainFriend : Value :=
  .object [("id", .text "1"), ("name", .text "one"), ("isAdmin", .bool false)]

/-- A friend who is an administrator. -/
def adminFriend : Value :=
  .object [("id", .text "2"), ("name", .text "two"), ("isAdmin", .bool true),
    ("adminId", .text "three")]

/-- The people that can be asked for, by identifier. -/
def people : Table Value :=
  [("123", .object [("id", .text "123"), ("name", .text "Sam Jones"),
    ("friends", .list [plainFriend, adminFriend])])]

/-- A resolver that reads a key of the value above, which has to have it. -/
def required (key : String) : Resolver := fun _ data =>
  match data.fields.get? key with
  | some v => .value v
  | none => .done (.error ⟨"KeyError", Text.Quoted.text key⟩)

/-- A resolver that reads a key of the value above, or gives a value in its stead. -/
def optional (key : String) (otherwise : Value) : Resolver := fun _ data =>
  .value ((data.fields.get? key).getD otherwise)

/-- The person of an identifier, or null. -/
def person (id : Value) : Value :=
  match id with
  | .text s => (people.get? s).getD .null
  | _ => .null

/-- A field without a contract. -/
def field (name : String) (type : Descriptor) (resolve : Resolver) : String × Field :=
  (name, { name, type, resolve })

/-- The fields of a person. -/
def personChunk : Chunk := [
  field "id" (.ofName false "String") (required "id"),
  field "name" (.ofName false "String") (required "name"),
  field "isAdmin" (.ofName false "Boolean") (optional "isAdmin" (.bool false)),
  field "friends" (.ofName true "Person!") (optional "friends" (.list [])),
  field "adminId" (.ofName false "String") (optional "adminId" .null)]

/-- The queries. -/
def queries : Chunk := [
  field "fauxCall" (.ofName false "Object!")
    fun _ _ => .value (.object [("thing1", .text "x"), ("thing2", .text "x")]),
  field "viewer" (.ofName false "Person!") fun _ _ => .value (person (.text "123")),
  ("person",
    { name := "person"
      type := .ofName false "Person"
      expect := [("id", .ofName false "String!")]
      resolve := fun args _ => .value (person ((args.get? "id").getD .null)) })]

/-- **The registry of people.** -/
def registry : Registry := { types := [("Person", personChunk)], root := queries }

end CallTree.Example
