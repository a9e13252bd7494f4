/-
# CallTree.Command.Invocation — what a command line asks for.

There are three commands: writing a settings file, serving a registry, and answering a call tree.
Options in front of the command are common to all of them.
-/
import CallTree.Command.Grammar
import CallTree.Settings.File

namespace CallTree.Command

/-- A command with what it was given. -/
inductive Order where
  /-- Write a settings file, over an existing one if that is allowed. -/
  | create (force : Bool)
  /-- Serve the registry of a target; host, port and explorer page go before the settings. -/
  | serve (target : String) (host : Option String) (port : Option Int) (ui : Bool)
  /-- Answer a call tree, by the registry of a target or by a server. The tree is not there if a
  second `--` stands for it. -/
  | query (target : Option String) (tree : Option String) (url : Option String)

/-- **`Invocation`** — a command, if any, and the path of the settings file. -/
structure Invocation where
  settings : String
  order : Option Order

namespace Invocation

/-- Asking for help. -/
def helpSwitch : Switch := ⟨["-h", "--help"], "help", .help⟩

/-- What stands in front of a command. -/
def common : Grammar where
  switches := [helpSwitch, ⟨["--version"], "version", .version⟩,
    ⟨["--config", "-c"], "config", .text⟩]
  words := .command

/-- The options and words of a command. -/
def grammar? : String → Option Grammar
  | "init" => some ⟨[helpSwitch, ⟨["--force", "-f"], "force", .mark⟩], .none⟩
  | "serve" => some ⟨[helpSwitch, ⟨["--host"], "host", .text⟩, ⟨["--port", "-p"], "port", .number⟩,
      ⟨["--ui"], "ui", .mark⟩], .one "spec"⟩
  | "query" => some ⟨[helpSwitch, ⟨["--url", "-u"], "url", .text⟩,
      ⟨["--log-level"], "log-level", .text⟩], .oneOrTwo "spec" "graph"⟩
  | _ => none

/-- A command with what its own part of the line gives. -/
def orderOf (command : String) (l : Line) : Order :=
  let value := l.given.get?
  if command = "init" then .create (l.given.has "force")
  else if command = "serve" then
    let port := (value "port").bind fun s => (Reading.int s).toOption
    .serve ((value "spec").getD "") (value "host") port (l.given.has "ui")
  else .query (value "spec") (value "graph") (value "url")

/-- **Read a command line** as an invocation. -/
def ofArgs (args : List String) : Except Ending Invocation := do
  let l ← common.read args
  let settings := (l.given.get? "config").getD Settings.fileName
  match l.command with
  | none =>
    let _ ← l.complete
    return { settings, order := none }
  | some (command, rest) =>
    match grammar? command with
    | none => throw .refused
    | some g =>
      let own ← g.read rest
      let own ← own.complete
      let _ ← l.complete
      return { settings, order := some (orderOf command own) }

end Invocation

end CallTree.Command
