/-
# CallTree.Main — the program.

The outer layer of the commands: it reads the settings file and the environment, runs the command
line (`CallTree.Command.run`), writes what has changed and prints. It carries the registry of
`CallTree.Example.People` as the module `people`, and no network: a request to a server fails, and
a server that a command starts is only announced.
-/
import CallTree.Command
import CallTree.Example.People

namespace CallTree.Command

/-- The text of a file that can be read. -/
def readFile? (path : String) : IO (Option String) := do
  try
    return some (← IO.FS.readFile path)
  catch _ =>
    return none

/-- The settings file of a command line, if there is one. -/
def gatherFolder (args : List String) : IO Folder := do
  match Invocation.ofArgs args with
  | .error _ => return []
  | .ok v =>
    let path := Folder.tidy v.settings
    match ← readFile? path with
    | some text => return [(path, text)]
    | none => return []

/-- The variables of the environment that count. -/
def gatherEnv : IO (Table String) := do
  let entries ← Settings.envNames.mapM fun name => do return (name, ← IO.getEnv name)
  return entries.filterMap fun (name, text) => text.map fun text => (name, text)

/-- What a command finds. -/
def gather (args : List String) : IO Surroundings := do
  return {
    folder := ← gatherFolder args
    env := ← gatherEnv
    modules := [("people", [("registry", .registry Example.registry)])]
    reply := .failure "there is no network" }

/-- Write the files that differ from what was there. -/
def writeFiles (before after : Folder) : IO Unit := do
  for (path, text) in after do
    if before.get? path ≠ some text then IO.FS.writeFile path text

/-- A value as it is announced. -/
def announced (v : Value) : String :=
  match v.display with
  | .ok text => text
  | .error f => f.message

/-- Carry an outcome out. -/
def carryOut (w : Surroundings) (o : Outcome) : IO UInt32 := do
  writeFiles w.folder o.folder
  IO.print o.output
  if let some s := o.served then
    IO.eprintln ("Serving on http://" ++ announced s.host ++ ":" ++ announced s.port ++ s.settings.path)
  return UInt32.ofNat o.code

end CallTree.Command

/-- Run the program. -/
def main (args : List String) : IO UInt32 := do
  let w ← CallTree.Command.gather args
  match CallTree.Command.run w args with
  | .ok o => CallTree.Command.carryOut w o
  | .error f =>
    IO.eprintln f.message
    return 1
