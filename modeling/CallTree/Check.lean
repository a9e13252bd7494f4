/-
# CallTree.Check — arguments against contracts, results against declared types.

Both checks report the first fault they meet and name the call. Arguments are checked in this order:
their presence, then names that the contract lacks, in the order of the arguments, then each name of
the contract in its order. Results are checked for children first: a native type has none and a
custom type needs some.

A value conforms to a native type if it is null and null is allowed, or a list whose items conform,
or of exactly that kind. A tuple is no list.
-/
import CallTree.Descriptor
import CallTree.Table

namespace CallTree

/-- **`ArgumentFault`** — what is wrong with the arguments of a call. -/
inductive ArgumentFault where
  | unexpected
  | missing
  | unexpectedName (arg : String)
  | missingName (arg : String)
  | null (arg : String)
  | noArray (arg : String)
  | item (arg : String) (typeName : String)
  | kind (arg : String) (typeName : String) (found : Value.Kind)
  deriving DecidableEq, Repr

namespace ArgumentFault

/-- The argument at fault, if it is a single one. -/
def arg? : ArgumentFault → Option String
  | .unexpected => none
  | .missing => none
  | .unexpectedName arg => some arg
  | .missingName arg => some arg
  | .null arg => some arg
  | .noArray arg => some arg
  | .item arg _ => some arg
  | .kind arg _ _ => some arg

/-- The sentence of a fault in a call. -/
def message (call : String) : ArgumentFault → String
  | .unexpected => "Unexpected arguments provided for field \"" ++ call ++ "\"."
  | .missing => "Arguments for field \"" ++ call ++
      "\" are missing or were not provided as an object."
  | .unexpectedName arg => "Unexpected argument \"" ++ arg ++ "\" for field \"" ++ call ++ "\"."
  | .missingName arg =>
    "Missing expected argument \"" ++ arg ++ "\" for field \"" ++ call ++ "\"."
  | .null arg => "Argument \"" ++ arg ++ "\" for field \"" ++ call ++ "\" can not be null."
  | .noArray arg => "Argument \"" ++ arg ++ "\" for field \"" ++ call ++ "\" must be an array."
  | .item arg typeName => "An item of argument \"" ++ arg ++ "\" for field \"" ++ call ++
      "\" does not match type \"" ++ typeName ++ "\"."
  | .kind arg typeName found => "Argument \"" ++ arg ++ "\" for field \"" ++ call ++
      "\" does not match expected type \"" ++ typeName ++ "\" (got " ++ found.name ++ ")."

end ArgumentFault

/-- **`ResultFault`** — what is wrong with what a resolver returned, or with the way it is asked
for. -/
inductive ResultFault where
  | nativeChildren
  | noChildren
  | undefinedType (typeName : String)
  | null (type : Descriptor)
  | noArray (found : Value.Kind)
  | item (typeName : String)
  | nullItem
  | kind (typeName : String) (found : Value.Kind)
  deriving DecidableEq, Repr

/-- The sentence of a fault in a call. -/
def ResultFault.message (call : String) : ResultFault → String
  | .nativeChildren => "You can not request child data on native type field \"" ++ call ++ "\"."
  | .noChildren =>
    "Queries on custom type field \"" ++ call ++ "\" require identifying children."
  | .undefinedType typeName => "Type name \"" ++ typeName ++ "\" is not defined."
  | .null type => "Field \"" ++ call ++ "\" can not return null for required type \"" ++
      type.display ++ "\"."
  | .noArray found => "Field \"" ++ call ++
      "\" expected data in the form of an array but got \"" ++ found.name ++ "\" instead."
  | .item typeName => "An item in the data array of field \"" ++ call ++
      "\" did not match native type \"" ++ typeName ++ "\"."
  | .nullItem => "An item in the data array of field \"" ++ call ++ "\" is null."
  | .kind typeName found => "Data type \"" ++ found.name ++ "\" of field \"" ++ call ++
      "\" does not match expected type \"" ++ typeName ++ "\"."

/-- The argument contract of a field. -/
abbrev Contract := Table Descriptor

namespace Check

/-- Whether an item of a list conforms: null where that is allowed, or of the native type. -/
def itemConforms (d : Descriptor) (v : Value) : Bool :=
  (v.isNull && !d.isRequired) || acceptsNamed d.name v

/-- One argument against its descriptor. -/
def argument (arg : String) (d : Descriptor) (v : Value) : Except ArgumentFault Unit :=
  if v.isNull then
    if d.isRequired then .error (.null arg) else .ok ()
  else if d.isArray then
    match v with
    | .list xs => if xs.all (itemConforms d) then .ok () else .error (.item arg d.name)
    | _ => .error (.noArray arg)
  else if acceptsNamed d.name v then .ok ()
  else .error (.kind arg d.name v.kind)

/-- Each name of a contract, in order. -/
def contracted (given : Table Value) : Contract → Except ArgumentFault Unit
  | [] => .ok ()
  | (arg, d) :: rest =>
    match given.get? arg with
    | none => .error (.missingName arg)
    | some v =>
      match argument arg d v with
      | .error e => .error e
      | .ok () => contracted given rest

/-- Names that a contract lacks, in the order of the arguments. -/
def knownNames (contract : Contract) : Table Value → Except ArgumentFault Unit
  | [] => .ok ()
  | (arg, _) :: rest =>
    if contract.has arg then knownNames contract rest else .error (.unexpectedName arg)

/-- Whatever is given for arguments, against a contract. Without a contract there may be nothing that
counts as true. -/
def fit (args : Value) (contract : Contract) : Except ArgumentFault Unit :=
  if contract.isEmpty then
    if args.truthy then .error .unexpected else .ok ()
  else
    match args with
    | .object fs =>
      match knownNames contract fs with
      | .error e => .error e
      | .ok () => contracted fs contract
    | _ => .error .missing

/-- **`Refusal`** — arguments that are refused: whose they are, and what is wrong with them. -/
structure Refusal where
  call : String
  fault : ArgumentFault
  deriving DecidableEq, Repr

/-- The sentence of a refusal. -/
def Refusal.message (e : Refusal) : String := e.fault.message e.call

/-- **Arguments** of a call against a contract. -/
def arguments (call : String) (args : Value) (contract : Contract) : Except Refusal Unit :=
  (fit args contract).mapError fun fault => { call, fault }

/-- **Result** of a native-typed field. -/
def nativeResult (d : Descriptor) (children : Bool) (v : Value) : Except ResultFault Unit :=
  if children then .error .nativeChildren
  else if v.isNull then
    if d.isRequired then .error (.null d) else .ok ()
  else if d.isArray then
    match v with
    | .list xs => if xs.all (itemConforms d) then .ok () else .error (.item d.name)
    | _ => .error (.noArray v.kind)
  else if acceptsNamed d.name v then .ok ()
  else .error (.kind d.name v.kind)

/-- **Result** of a custom-typed field. The values themselves are not looked into. -/
def customResult (d : Descriptor) (children : Bool) (v : Value) : Except ResultFault Unit :=
  if !children then .error .noChildren
  else if v.isNull then
    if d.isRequired then .error (.null d) else .ok ()
  else if d.isArray then
    match v with
    | .list xs => if d.isRequired && xs.any Value.isNull then .error .nullItem else .ok ()
    | _ => .error (.noArray v.kind)
  else .ok ()

end Check

end CallTree
