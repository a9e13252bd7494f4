/-
# CallTree.Registry.Draft — registries in the making.

A draft collects types and fields, one step at a time. Names and tokens come from a host and may be
any values, so each step checks what it is given; what a field refers to is checked only when the
registry is built, since types may be declared after they are used.

A step that fails may leave one trace: the first field of a new type declares the type before the
field itself is checked. Steps therefore always give a draft, beside the fault if there is one.

`ofTables` builds a registry from two host tables, by the same steps.
-/
import CallTree.Registry
import CallTree.Value.Literal

namespace CallTree

/-- **`SpecFault`** — what is wrong with a definition. -/
inductive SpecFault where
  | noTypes
  | noQueries
  /-- What should be a table is of another kind. -/
  | noTable (k : Value.Kind)
  /-- What should be a name cannot be looked up. -/
  | unkeyable (k : Value.Kind)
  | typeName (name : Value)
  | reservedName
  | nativeName (name : String)
  | duplicate (field owner : String)
  | fieldName (name : Value)
  | typeToken (owner field : String) (token : Value)
  | noResolver (owner field : String)
  | noContract (owner field : String)
  | argumentToken (owner field arg : String) (token : Value)
  | argumentType (owner field arg typeName : String)
  /-- A definition that is no table. -/
  | noDefinition (owner field : Value)
  | noType (owner field : Value)
  | undefinedType (owner field typeName : String)

namespace SpecFault

/-- A field in messages. -/
def place (owner field : String) : String := "\"" ++ owner ++ "." ++ field ++ "\""

/-- The place that two values name, in messages. -/
def placeOf (owner field : Value) : Except Decimal.Fault String :=
  match owner.display, field.display with
  | .ok owner, .ok field => .ok (place owner field)
  | .error e, _ => .error e
  | _, .error e => .error e

/-- **The sentence of a fault.** Where it quotes a value that cannot be written, there is none, and what is
raised is that instead of the fault. -/
def message : SpecFault → Except Decimal.Fault String
  | .noTypes => .ok "A spec requires a custom types table"
  | .noQueries => .ok "A spec requires a queries table"
  | .noTable k => .ok ("'" ++ k.faultName ++ "' object has no attribute 'items'")
  | .unkeyable k => .ok ("unhashable type: '" ++ k.faultName ++ "'")
  | .typeName name => name.literal.map fun text => "Invalid type name: " ++ text
  | .reservedName => .ok ("\"" ++ Registry.rootName ++ "\" is reserved for the queries table")
  | .nativeName name => .ok ("\"" ++ name ++ "\" is a native type and cannot be redefined")
  | .duplicate field owner =>
    .ok ("Field \"" ++ field ++ "\" is already defined on \"" ++ owner ++ "\"")
  | .fieldName name => name.literal.map fun text => "Invalid field name: " ++ text
  | .typeToken owner field token => token.literal.map fun text =>
      "Field " ++ place owner field ++ " has an invalid type token: " ++ text
  | .noResolver owner field =>
    .ok ("Field " ++ place owner field ++ " requires a callable resolve function")
  | .noContract owner field =>
    .ok ("Arguments of " ++ place owner field ++ " must be declared as a mapping")
  | .argumentToken owner field arg token => token.literal.map fun text =>
      "Argument \"" ++ arg ++ "\" of " ++ place owner field ++ " has an invalid type token: " ++ text
  | .argumentType owner field arg found => .ok ("Argument \"" ++ arg ++ "\" of " ++
      place owner field ++ " must use a native type, got \"" ++ found ++ "\"")
  | .noDefinition owner field => (placeOf owner field).map fun place =>
      "Definition of " ++ place ++ " must be a mapping"
  | .noType owner field => (placeOf owner field).map fun place =>
      "Field " ++ place ++ " is missing a type"
  | .undefinedType owner field missing =>
    .ok ("Field " ++ place owner field ++ " references undefined type \"" ++ missing ++ "\"")

end SpecFault

namespace Registry

/-- **`Draft`** — a registry in the making. -/
structure Draft where
  types : Table Chunk := []
  root : Chunk := []

/-- A field as a host defines it. -/
structure Definition where
  type : Value
  /-- The resolver, if what the host gave for it is one. -/
  resolve : Option Resolver
  expect : Value := .null
  description : Value := .null

namespace Draft

/-- What a step gives: the fault if it failed, and the draft in any case. -/
abbrev Step := Except SpecFault Unit × Draft

/-! ## Names -/

/-- A name that a custom type may have. -/
def readTypeName : Value → Except SpecFault String
  | .text name =>
    if name = "" then .error (.typeName (.text name))
    else if name = rootName then .error .reservedName
    else if (Descriptor.ofName false name).isNative then .error (.nativeName name)
    else .ok name
  | v => .error (.typeName v)

/-- Whether a text starts with the mark of operators. -/
def isOperatorName (s : String) : Bool := s.toList.take 2 = [':', ':']

/-- A name that a field may have. -/
def readFieldName : Value → Except SpecFault String
  | .text name =>
    if name = "" || isOperatorName name then .error (.fieldName (.text name)) else .ok name
  | v => .error (.fieldName v)

/-! ## Fields -/

/-- The contract that argument tokens declare; every argument is of a native type. -/
def readContract (owner field : String) : Table Value → Except SpecFault Contract
  | [] => .ok []
  | (arg, token) :: rest =>
    if !Descriptor.isToken token then .error (.argumentToken owner field arg token)
    else
      match Descriptor.ofToken token with
      | .error _ => .error (.argumentToken owner field arg token)
      | .ok d =>
        if !d.isNative then .error (.argumentType owner field arg d.name)
        else (readContract owner field rest).map ((arg, d) :: ·)

/-- The contract of a definition; without one nothing is expected. -/
def readExpect (owner field : String) : Value → Except SpecFault Contract
  | .null => .ok []
  | .object fs => readContract owner field fs
  | _ => .error (.noContract owner field)

/-- Check a definition. The name comes first, then the type, the resolver and the contract. -/
def readField (owner : String) (name : Value) (d : Definition) : Except SpecFault Field :=
  match readFieldName name with
  | .error e => .error e
  | .ok field =>
    if !Descriptor.isToken d.type then .error (.typeToken owner field d.type)
    else
      match Descriptor.ofToken d.type, d.resolve with
      | .error _, _ => .error (.typeToken owner field d.type)
      | .ok _, none => .error (.noResolver owner field)
      | .ok type, some resolve =>
        (readExpect owner field d.expect).map fun expect =>
          { name := field, type, resolve, expect, description := d.description }

/-! ## Steps -/

/-- Declare a type under a name that has been checked; a second time changes nothing. -/
def declare (d : Draft) (name : String) : Draft :=
  if d.types.has name then d else { d with types := d.types.set name [] }

/-- **Add a type.** -/
def addType (d : Draft) (name : Value) : Step :=
  match readTypeName name with
  | .error e => (.error e, d)
  | .ok name => (.ok (), d.declare name)

/-- The fields of an owner: the queries or a declared type. -/
def chunk (d : Draft) (owner : String) : Chunk :=
  if owner = rootName then d.root else (d.types.get? owner).getD []

/-- Write a field of an owner. -/
def setField (d : Draft) (owner name : String) (f : Field) : Draft :=
  if owner = rootName then { d with root := d.root.set name f }
  else { d with types := d.types.set owner ((d.chunk owner).set name f) }

/-- The owner of a new field: the queries, or a type that is declared if it is not yet. -/
def openChunk (d : Draft) (owner : Value) : Except SpecFault String × Draft :=
  match owner.unkeyable? with
  | some k => (.error (.unkeyable k), d)
  | none =>
    match owner with
    | .text name =>
      if name = rootName || d.types.has name then (.ok name, d)
      else
        match readTypeName owner with
        | .error e => (.error e, d)
        | .ok name => (.ok name, d.declare name)
    | v => (.error (.typeName v), d)

/-- **Add a field.** No field is defined twice. -/
def addField (d : Draft) (owner name : Value) (definition : Definition) : Step :=
  match d.openChunk owner with
  | (.error e, d) => (.error e, d)
  | (.ok owner, d) =>
    match name.unkeyable? with
    | some k => (.error (.unkeyable k), d)
    | none =>
      match name with
      | .text field =>
        if (d.chunk owner).has field then (.error (.duplicate field owner), d)
        else
          match readField owner name definition with
          | .error e => (.error e, d)
          | .ok f => (.ok (), d.setField owner field f)
      | v => (.error (.fieldName v), d)

/-- **Add a query.** -/
def addQuery (d : Draft) (name : Value) (definition : Definition) : Step :=
  d.addField (.text rootName) name definition

/-- **Add a field from a host table**; `host` tells which values are resolvers. -/
def addDefinition (host : Value → Option Resolver) (d : Draft) (owner name definition : Value) :
    Step :=
  match definition with
  | .object fs =>
    match Table.get? fs "type" with
    | none => (.error (.noType owner name), d)
    | some type =>
      d.addField owner name
        { type, resolve := host ((Table.get? fs "resolve").getD .null)
          expect := (Table.get? fs "expect").getD .null
          description := (Table.get? fs "description").getD .null }
  | _ => (.error (.noDefinition owner name), d)

/-- **Put a field** that is known to be in order, in the place of one of its name if there is
one. -/
def putField (d : Draft) (owner : Value) (name : String) (f : Field) : Step :=
  match d.openChunk owner with
  | (.error e, d) => (.error e, d)
  | (.ok owner, d) => (.ok (), d.setField owner name f)

/-! ## Building -/

/-- The first field of a chunk whose type is neither native nor declared. -/
def undefinedIn (types : Table Chunk) (owner : String) : Chunk → Except SpecFault Unit
  | [] => .ok ()
  | (name, f) :: rest =>
    if !f.type.isNative && !types.has f.type.name then
      .error (.undefinedType owner name f.type.name)
    else undefinedIn types owner rest

/-- The first such field of several chunks. -/
def undefinedInAll (types : Table Chunk) : Table Chunk → Except SpecFault Unit
  | [] => .ok ()
  | (owner, chunk) :: rest =>
    match undefinedIn types owner chunk with
    | .error e => .error e
    | .ok () => undefinedInAll types rest

/-- **Build** a registry; if `check` is set, every type that a field names has to be declared.
Queries are looked at first. -/
def build (d : Draft) (check : Bool) : Except SpecFault Registry :=
  let registry : Registry := { types := d.types, root := d.root }
  if check then
    (undefinedInAll d.types ((rootName, d.root) :: d.types)).map fun _ => registry
  else .ok registry

end Draft

/-! ## Host tables -/

/-- Add the fields of one host table, up to the first fault. -/
def addDefinitions (host : Value → Option Resolver) (owner : String) :
    Table Value → Draft → Except SpecFault Draft
  | [], d => .ok d
  | (name, definition) :: rest, d =>
    match d.addDefinition host (.text owner) (.text name) definition with
    | (.error e, _) => .error e
    | (.ok (), d) => addDefinitions host owner rest d

/-- Add the types of a host table, each with its fields, up to the first fault. -/
def addTypes (host : Value → Option Resolver) : Table Value → Draft → Except SpecFault Draft
  | [], d => .ok d
  | (name, fields) :: rest, d =>
    match d.addType (.text name) with
    | (.error e, _) => .error e
    | (.ok (), d) =>
      match fields with
      | .object fs =>
        match addDefinitions host name fs d with
        | .error e => .error e
        | .ok d => addTypes host rest d
      | v => .error (.noTable v.kind)

/-- **A registry from host tables** of types and queries. -/
def ofTables (host : Value → Option Resolver) (types queries : Value) (check : Bool) :
    Except SpecFault Registry :=
  if types.isNull then .error .noTypes
  else if queries.isNull then .error .noQueries
  else
    match types with
    | .object typeTable =>
      match addTypes host typeTable {} with
      | .error e => .error e
      | .ok d =>
        match queries with
        | .object queryTable =>
          match addDefinitions host rootName queryTable d with
          | .error e => .error e
          | .ok d => d.build check
        | v => .error (.noTable v.kind)
    | v => .error (.noTable v.kind)

end Registry

end CallTree
