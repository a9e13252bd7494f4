/-
# CallTree.Resolution — call trees against a registry, as concurrent work.

`resolve` turns a call tree into a task. A composition resolves its calls side by side and gives the
list of their results. Any other call names a field of the type at hand:

1. its arguments are checked against the field's contract, and a custom type has to be declared;
2. the resolver runs. If it fails, that is logged, and the result of the call is null;
3. what the resolver returned is checked against the field's type;
4. for a custom type, the children are resolved on what was returned, or side by side on its items
   if the type is a list.

Children that are no conditional blocks are resolved first, side by side. Then the conditions of
each block are asked of what those gave, and the children of all blocks that hold are resolved side
by side. The results of a call's children are merged in the order of the request.

A fault that is not a resolver's aborts the request (`Abort`).
-/
import CallTree.Condition
import CallTree.Journal
import CallTree.Limit
import CallTree.Node.Reader
import CallTree.Registry
import CallTree.Task

namespace CallTree

/-- **`Abort`** — why a request as a whole cannot be resolved. -/
inductive Abort where
  | shape (f : ShapeFault)
  | arguments (call : String) (f : ArgumentFault)
  | result (call : String) (f : ResultFault)
  | conditions (f : Condition.Fault)
  /-- The time limit of the request is up. -/
  | elapsed (limit : Binary64)
  | limit (f : Limit.Fault)

/-- The sentence of an abort. -/
def Abort.message : Abort → String
  | .shape f => f.text
  | .arguments call f => f.message call
  | .result call f => f.message call
  | .conditions f => f.message
  | .elapsed x => Limit.elapsedMessage x
  | .limit f => f.message

/-- Work within a request. -/
abbrev Work := Task Journal Abort Value

/-- What calls are resolved on: the type at hand with its name, and the value above. -/
structure Scope where
  owner : String
  chunk : Chunk
  data : Value

/-- A call of a field in a scope. -/
def Scope.call (scope : Scope) (name : String) (args : Option (Table Value)) (path : Path) : Call :=
  ⟨scope.owner, name, path, args.getD [], scope.data⟩

namespace Script

/-- Run the script of a call as part of a request, and go on with its outcome. -/
def run (call : Call) (next : Except Failure Value → Work) : Script → Work
  | .done outcome => .act (·.finish call outcome) fun _ => next outcome
  | .pause rest => .pause (run call next rest)
  | .hang => .hang
  | .consult state rest =>
    .act (fun j => j.setState (state j.context)) fun j => run call next (rest j.context)

end Script

namespace Resolution

/-- A conditional block: its conditions, whether a composition is among its calls, and the calls as
tasks. -/
structure Block where
  conditions : Value
  composes : Bool
  calls : List Work

/-- The blocks whose conditions hold of an output; all conditions are asked, in order. -/
def admitted (output : Table Value) : List Block → Except Condition.Fault (List Block)
  | [] => .ok []
  | b :: rest =>
    match Condition.pass b.conditions output with
    | .error f => .error f
    | .ok holds =>
      (admitted output rest).map fun blocks => if holds then b :: blocks else blocks

/-- Results of calls merged into one table, in order. -/
def mergeAll (output : Table Value) (results : List Value) : Table Value :=
  results.foldl (fun acc r => Table.merge acc r.fields) output

/-- Resolve calls side by side and merge what they give. -/
def batch (composes : Bool) (calls : List Work) (output : Table Value)
    (next : Table Value → Work) : Work :=
  if composes then .fail (.shape .composeInside)
  else .gatherAll calls fun results => next (mergeAll output results)

/-- The children of a call: the calls among them, and then those of the blocks that hold. -/
def select (composes : Bool) (calls : List Work) (blocks : List Block) : Work :=
  batch composes calls [] fun output =>
    match admitted output blocks with
    | .error f => .fail (.conditions f)
    | .ok blocks =>
      batch (blocks.any (·.composes)) (blocks.flatMap (·.calls)) output fun output =>
        .succeed (.object output)

/-- The result of a call, under its name. -/
def named (name : String) (v : Value) : Work := .succeed (.single name v)

/-- Resolve the children of a custom-typed call on what its resolver returned. -/
def descend (r : Registry) (name : String) (type : Descriptor) (path : Path)
    (children : Scope → Path → Work) (v : Value) : Work :=
  let chunk := (r.chunk? type.name).getD []
  let below (data : Value) (path : Path) : Work := children ⟨type.name, chunk, data⟩ path
  if v.isNull then named name .null
  else if type.isArray then
    let items := (v.items?).getD []
    .gatherAll (items.mapIdx fun i item =>
        if item.isNull then .succeed .null else below item (path ++ [(i : Int)]))
      fun results => named name (.list results)
  else (below v path).andThen (named name)

/-- Check what a resolver returned, and resolve the children on it. -/
def complete (r : Registry) (name : String) (type : Descriptor) (hasChildren : Bool) (path : Path)
    (children : Scope → Path → Work) (v : Value) : Work :=
  if type.isNative then
    match Check.nativeResult type hasChildren v with
    | .error f => .fail (.result name f)
    | .ok () => named name v
  else
    match Check.customResult type hasChildren v with
    | .error f => .fail (.result name f)
    | .ok () => descend r name type path children v

/-- Check a call of a field before its resolver runs. -/
def checkCall (r : Registry) (name : String) (args : Option (Table Value)) (f : Field) :
    Except Abort Unit :=
  match Check.arguments name ((args.map Value.object).getD .null) f.expect with
  | .error e => .error (.arguments e.call e.fault)
  | .ok () =>
    if f.type.isNative then .ok () else (Check.declared r f.type).mapError (.result name)

/-- Call a field; `children` resolves the children of the call on a value. -/
def callField (r : Registry) (name : String) (args : Option (Table Value)) (hasChildren : Bool)
    (scope : Scope) (path : Path) (children : Scope → Path → Work) : Work :=
  match scope.chunk.get? name with
  | none => .fail (.shape (.unknownName name))
  | some f =>
    match checkCall r name args f with
    | .error e => .fail e
    | .ok () =>
      let call := scope.call name args path
      .act (·.start call) fun _ =>
        (f.resolve call.args call.data).run call fun
          | .error _ => named name .null
          | .ok v => complete r name f.type hasChildren path children v

/-- Whether a composition is among the calls that are no conditional blocks. -/
def composesAmong (children : List Node) : Bool :=
  children.any fun n => !n.isWhen && n.isCompose

mutual

/-- **Resolve** a call. -/
def resolve (r : Registry) : Node → Scope → Path → Work
  | .mk name args children, scope, path =>
    if name = Node.composeName then
      .gatherAll (resolveAll r children scope path 0) fun results => .succeed (.list results)
    else if name = Node.whenName then .fail (.shape .whenOutside)
    else
      callField r name args (!children.isEmpty) scope path fun scope path =>
        select (composesAmong children) (calls r children scope path 0)
          (blocks r children scope path 0)

/-- Resolve calls at consecutive positions below a path. -/
def resolveAll (r : Registry) : List Node → Scope → Path → Nat → List Work
  | [], _, _, _ => []
  | n :: rest, scope, path, i =>
    resolve r n scope (path ++ [(i : Int)]) :: resolveAll r rest scope path (i + 1)

/-- Resolve the calls among children, each at its position. -/
def calls (r : Registry) : List Node → Scope → Path → Nat → List Work
  | [], _, _, _ => []
  | n :: rest, scope, path, i =>
    if n.isWhen then calls r rest scope path (i + 1)
    else resolve r n scope (path ++ [(i : Int)]) :: calls r rest scope path (i + 1)

/-- The conditional blocks among children, each at its position. -/
def blocks (r : Registry) : List Node → Scope → Path → Nat → List Block
  | [], _, _, _ => []
  | .mk name args children :: rest, scope, path, i =>
    if name = Node.whenName then
      { conditions := (args.map Value.object).getD .null
        composes := children.any Node.isCompose
        calls := resolveAll r children scope (path ++ [(i : Int)]) 0 }
        :: blocks r rest scope path (i + 1)
    else blocks r rest scope path (i + 1)

end

end Resolution

end CallTree
