/-
# CallTree.Node.Reader — written calls as call trees.

The grammar of a written call: a list or tuple that starts with a text that is not empty (the name);
then, at the second place only, possibly an object (the arguments); then children, each a text that
is not empty or again a written call. `::when` needs arguments and `::compose` takes none. Whether a
name means anything is not asked here.

Of several faults the first in reading order is reported; the name and the arguments of a call come
before its children.
-/
import CallTree.Json.Printer
import CallTree.Node
import CallTree.Value.Literal

namespace CallTree

/-- **`ShapeFault`** — what is wrong with the shape of a call tree, as written or where it is
resolved. -/
inductive ShapeFault where
  /-- The whole tree is no list. -/
  | noList (v : Value)
  /-- A call without a name. -/
  | noCall
  /-- A name that is no text, or an empty one. -/
  | noName (v : Value)
  /-- A conditional block without conditions. -/
  | noConditions
  /-- A composition with arguments. -/
  | composeArguments
  /-- A child that is neither a text nor a list. -/
  | noChild
  /-- A name that the type at hand does not have. -/
  | unknownName (name : String)
  /-- A conditional block that is no child of a custom-typed call. -/
  | whenOutside
  /-- A composition among the children of a call. -/
  | composeInside

namespace ShapeFault

/-- So many characters of a value are shown in a message. -/
def shown (text : String) : String :=
  if text.length ≤ 60 then text else String.ofList (text.toList.take 57) ++ "..."

/-- A value in a message: as a document if it has that form, else as a literal, if it has that. It is cut to
its first 57 characters and an ellipsis if it is longer than 60. -/
def describe (v : Value) : Except Decimal.Fault String :=
  match Json.write .message v with
  | .ok s => .ok (shown s)
  | .error _ => v.literal.map shown

/-- A sentence about a value that it quotes. -/
def about (v : Value) (wrong : String) : Except Decimal.Fault String :=
  (describe v).map fun text => "The value " ++ text ++ wrong

/-- **The sentence of a fault.** Where it quotes a value that cannot be written, there is none, and what is
raised is that instead of the fault. -/
def message : ShapeFault → Except Decimal.Fault String
  | .noList v => about v " must be an array."
  | .noCall => .ok "A call must not be empty."
  | .noName v => about v " must be a call name."
  | .noConditions => .ok ("A " ++ Node.whenName ++ " block requires a conditions object.")
  | .composeArguments => .ok (Node.composeName ++ " does not accept arguments.")
  | .noChild => .ok "Children in a graph must be strings or arrays."
  | .unknownName name => .ok ("The query name \"" ++ name ++ "\" is not allowed.")
  | .whenOutside =>
    .ok (Node.whenName ++ " blocks are only allowed among the children of a custom type field.")
  | .composeInside => .ok (Node.composeName ++ " is not allowed among the children of a field.")

/-- What is told of a fault: its sentence, or why there is none. -/
def text (f : ShapeFault) : String :=
  match f.message with
  | .ok sentence => sentence
  | .error e => e.message

end ShapeFault

namespace Node

/-- A name of a call. -/
def readName : Value → Except ShapeFault String
  | .text s => if s = "" then .error (.noName (.text s)) else .ok s
  | v => .error (.noName v)

/-- The name and the arguments of a call may stand together. -/
def checkHead (name : String) (args : Option (Table Value)) : Except ShapeFault Unit :=
  if name = whenName && args.isNone then .error .noConditions
  else if name = composeName && args.isSome then .error .composeArguments
  else .ok ()

mutual

/-- Read the items of a written call. -/
def readItems : List Value → Except ShapeFault Node
  | [] => .error .noCall
  | head :: rest =>
    match readName head with
    | .error e => .error e
    | .ok name =>
      match rest with
      | .object args :: children =>
        match checkHead name (some args) with
        | .error e => .error e
        | .ok () => (readChildren children).map (.mk name (some args))
      | children =>
        match checkHead name none with
        | .error e => .error e
        | .ok () => (readChildren children).map (.mk name none)

/-- Read a child: a bare name or a written call. -/
def readChild : Value → Except ShapeFault Node
  | .text s =>
    if s = "" then .error (.noName (.text s))
    else if s = whenName then .error .noConditions
    else .ok (leaf s)
  | .list xs => readItems xs
  | .tuple xs => readItems xs
  | _ => .error .noChild

/-- Read children, first to last. -/
def readChildren : List Value → Except ShapeFault (List Node)
  | [] => .ok []
  | v :: rest =>
    match readChild v with
    | .error e => .error e
    | .ok n => (readChildren rest).map (n :: ·)

end

/-- **Read** a written call tree; a bare name is none. -/
def read : Value → Except ShapeFault Node
  | .list xs => readItems xs
  | .tuple xs => readItems xs
  | v => .error (.noList v)

end Node

end CallTree
