/-
# CallTree.Command.Target — where a command finds its registry.

A target names a module and something in it, `module:name`, and is cut at the first colon. What a
module has under a name is a registry, or a function that makes something when it is called, or
anything else. No module lies inside another one.

A fault names the first step that fails: the form of the target, the module, the name, the call,
the kind.
-/
import CallTree.Registry
import CallTree.Text.Quoted

namespace CallTree.Command

/-- **`Item`** — what a module has under a name. -/
inductive Item where
  | registry (r : Registry)
  /-- A function without arguments, by what it makes. -/
  | maker (made : Item)
  /-- A function that cannot be called without arguments, by the sentence with which it refuses. -/
  | needing (sentence : String)
  | other

/-- Modules by name, each with its items. -/
abbrev Modules := Table (Table Item)

/-- **`Target`** — the name of a module and a name in it. -/
structure Target where
  module : String
  item : String

namespace Target

/-- Why a target gives no registry. -/
inductive Fault where
  /-- The text is no target. -/
  | form (text : String)
  /-- The name of the module starts with a dot, but there is nothing that it could be relative
  to. -/
  | relative (module : String)
  /-- A module, or the first part of its name, is not there. -/
  | absent (module part : String)
  /-- The first part of the name of a module is a module itself, so nothing lies in it. -/
  | flat (module inner outer : String)
  | unnamed (t : Target)
  /-- A function refuses to be called. -/
  | refused (sentence : String)
  | noRegistry (text : String)

/-- The sentence of a fault. -/
def Fault.message : Fault → String
  | .form text => "Spec target must look like \"module:attribute\", got \"" ++ text ++ "\""
  | .relative module =>
    "the 'package' argument is required to perform a relative import for " ++
      Text.Quoted.text module
  | .absent module part =>
    "Could not import \"" ++ module ++ "\": No module named " ++ Text.Quoted.text part
  | .flat module inner outer =>
    "Could not import \"" ++ module ++ "\": No module named " ++ Text.Quoted.text inner ++ "; " ++
      Text.Quoted.text outer ++ " is not a package"
  | .unnamed t => "Module \"" ++ t.module ++ "\" has no attribute \"" ++ t.item ++ "\""
  | .refused sentence => sentence
  | .noRegistry text => "\"" ++ text ++ "\" is not a SpecRegistry"

/-- The target that a text spells. -/
def ofText? (text : String) : Option Target :=
  let module := text.toList.takeWhile (· ≠ ':')
  let item := (text.toList.dropWhile (· ≠ ':')).drop 1
  if module.isEmpty || item.isEmpty then none else some ⟨String.ofList module, String.ofList item⟩

/-- The items of a module. -/
def load (modules : Modules) (module : String) : Except Fault (Table Item) :=
  let name := module.toList
  let outer := name.takeWhile (· ≠ '.')
  let inside := name.dropWhile (· ≠ '.')
  let found := modules.get? (String.ofList outer)
  match found, outer, inside with
  | _, [], _ :: _ => .error (.relative module)
  | none, _, _ => .error (.absent module (String.ofList outer))
  | some items, _, [] => .ok items
  | some _, _, _ :: rest =>
    .error (.flat module (String.ofList (outer ++ '.' :: rest.takeWhile (· ≠ '.')))
      (String.ofList outer))

/-- What calling an item gives, if it is a function; else the item. -/
def made : Item → Item
  | .maker item => item
  | item => item

/-- **The registry of a target.** -/
def find (modules : Modules) (text : String) : Except Fault Registry :=
  match ofText? text with
  | none => .error (.form text)
  | some t =>
    match load modules t.module with
    | .error f => .error f
    | .ok items =>
      match items.get? t.item with
      | none => .error (.unnamed t)
      | some item =>
        match made item with
        | .registry r => .ok r
        | .needing sentence => .error (.refused sentence)
        | _ => .error (.noRegistry text)

end Target

end CallTree.Command
