/-
# CallTree.Command — the commands, as a function of what surrounds them.

A command finds a folder with files, an environment, modules with registries, and a server that
would answer it. What it does comes out as a value: its code, what it prints, the folder afterwards,
the request it sent and the server it started. Nothing here touches the world; the outer layer
gathers the surroundings and carries the outcome out.

Faults of a call tree, a target or a server are printed and give the code 1. A fault that no command
prints ends the program (`Command.Fault`).
-/
import CallTree.Command.Folder
import CallTree.Command.Invocation
import CallTree.Command.Target
import CallTree.Execution
import CallTree.Json.Printer
import CallTree.Json.Reader
import CallTree.Value.Compare

namespace CallTree.Command

/-- What a server answers. -/
inductive Reply where
  /-- There is no answer, and why. -/
  | failure (message : String)
  | answer (status : Int) (body : String)

/-- **`Surroundings`** — what a command finds. -/
structure Surroundings where
  folder : Folder
  env : Table String
  modules : Modules
  reply : Reply

/-- A request to a server. -/
structure Sent where
  url : String
  tree : Value
  timeout : Value

/-- A server that has been started. -/
structure Served where
  host : Value
  port : Value
  logLevel : String
  settings : Settings

/-- **`Outcome`** — what a command has done. -/
structure Outcome where
  code : Nat
  output : String
  folder : Folder
  /-- Whether reading the command line has ended the program. -/
  ended : Bool := false
  sent : Option Sent := none
  served : Option Served := none

/-- What ends the program without an outcome. -/
inductive Fault where
  | folder (f : Folder.Fault)
  | settings (f : Settings.FileFault .yaml)
  | target (f : Target.Fault)
  /-- A second `--` stands for the call tree. -/
  | noTree
  | reply (f : Json.Fault)
  | output (f : Json.PrintFault)
  /-- A server has answered with a single number. -/
  | noResult (k : Value.Kind)
  /-- A level of logging that is no text. -/
  | level (k : Value.Kind)
  /-- A request that hangs without a time limit is never answered. -/
  | unanswered

/-- The sentence of a fault. -/
def Fault.message : Fault → String
  | .folder f => f.message
  | .settings f => f.message
  | .target f => f.message
  | .noTree => "the JSON object must be str, bytes or bytearray, not list"
  | .reply f => f.message
  | .output f => f.message
  | .noResult k => "argument of type '" ++ k.faultName ++ "' is not iterable"
  | .level k => "'" ++ k.faultName ++ "' object has no attribute 'lower'"
  | .unanswered => "the request is never answered"

/-! ## Texts -/

/-- A short account of the commands. -/
def usage : String :=
  "usage: typegraph [-h] [--version] [--config CONFIG] \x7binit,serve,query\x7d ...\n"

/-- The version of the program. -/
def version : String := "typegraph 0.1.0\n"

/-- An error, as it is printed. -/
def errorLine (message : String) : String := "Error: " ++ message ++ "\n"

namespace Surroundings

/-- An outcome that leaves the folder alone. -/
def finish (w : Surroundings) (code : Nat) (output : String) : Outcome :=
  { code, output, folder := w.folder }

/-- An outcome of reading the command line. -/
def ending (w : Surroundings) : Ending → Outcome
  | .help => { w.finish 0 usage with ended := true }
  | .version => { w.finish 0 version with ended := true }
  | .refused => { w.finish 2 "" with ended := true }

/-- The path of the settings file. -/
def settingsPath (v : Invocation) : String := Folder.tidy v.settings

/-- The settings of the folder and the environment. -/
def loadSettings (w : Surroundings) (v : Invocation) : Except Fault Settings := do
  let file ← (w.folder.read (settingsPath v)).mapError .folder
  (Settings.load .yaml file (w.env.mapValues .text)).mapError .settings

/-! ## The three commands -/

/-- Write a settings file: the default settings, with the explorer page. -/
def create (w : Surroundings) (v : Invocation) (force : Bool) : Except Fault Outcome := do
  let path := settingsPath v
  let found ← (w.folder.holds path).mapError .folder
  if found && !force then
    return w.finish 1 (errorLine (path ++ " already exists. Use --force to overwrite."))
  let text ← (Settings.save .yaml { Settings.default with ui := .bool true }).mapError .settings
  let folder ← (w.folder.write path text).mapError .folder
  return { code := 0, output := "Created " ++ path ++ "\n", folder }

/-- The registry of a target, or an outcome that tells why there is none. -/
def withRegistry (w : Surroundings) (target : String)
    (go : Registry → Except Fault Outcome) : Except Fault Outcome :=
  match Target.find w.modules target with
  | .ok r => go r
  | .error (.relative module) => .error (.target (.relative module))
  | .error (.refused sentence) => .error (.target (.refused sentence))
  | .error f => .ok (w.finish 1 (errorLine f.message))

/-- A text that is not empty. -/
def given? (text : Option String) : Option String := text.filter (· ≠ "")

/-- The settings with what a command was given instead. -/
def overridden (s : Settings) (host : Option String) (port : Option Int) (ui : Bool) : Settings :=
  { s with
    host := ((given? host).map .text).getD s.host
    port := ((port.filter (· ≠ 0)).map .int).getD s.port
    ui := if ui then .bool true else s.ui }

/-- Serve a registry. -/
def serve (w : Surroundings) (v : Invocation) (target : String) (host : Option String)
    (port : Option Int) (ui : Bool) : Except Fault Outcome := do
  let settings := overridden (← w.loadSettings v) host port ui
  w.withRegistry target fun _ =>
    match settings.logLevel with
    | .text level =>
      let served : Served :=
        { host := settings.host, port := settings.port, logLevel := Text.lower level, settings }
      .ok { w.finish 0 "" with served := some served }
    | v => .error (.level v.kind)

/-- Print a result; it is a success if it has data. -/
def report (w : Surroundings) (result : Value) : Except Fault Outcome := do
  let text ← (Json.write .report result).mapError .output
  let found ← match result with
    | .text _ | .list _ | .tuple _ | .object _ | .octets _ =>
      .ok ((Value.contains result (.text "data")).toOption.getD false)
    | v => .error (.noResult v.kind)
  return w.finish (if found then 0 else 1) (text ++ "\n")

/-- The time limit of requests to a server, in seconds, if the settings have none. -/
def remoteLimit : Value := .float (Binary64.ofRatio false 30 1)

/-- The document in the body of a reply; a mark of the byte order in front does not count. -/
def replyDocument (body : String) : Except Json.Fault Value :=
  match body.toList with
  | '\ufeff' :: rest => Json.read (String.ofList rest)
  | _ => Json.read body

/-- Have a call tree answered by a server. -/
def queryRemote (w : Surroundings) (url : String) (tree timeout : Value) :
    Except Fault Outcome := do
  let sent : Sent := { url, tree, timeout := if timeout.truthy then timeout else remoteLimit }
  let outcome ← match w.reply with
    | .failure message =>
      .ok (w.finish 1 (errorLine ("request to " ++ url ++ " failed: " ++ message)))
    | .answer status body =>
      if status ≠ 200 then
        .ok (w.finish 1 (errorLine (url ++ " returned " ++ toString status ++ ": " ++ body)))
      else
        match replyDocument body with
        | .error f => .error (.reply f)
        | .ok .null => .ok (w.finish 1 "")
        | .ok result => w.report result
  return { outcome with sent := some sent }

/-- Have a call tree answered by the registry of a target. -/
def queryLocal (w : Surroundings) (target : String) (tree timeout : Value) :
    Except Fault Outcome :=
  w.withRegistry target fun r =>
    match Execution.alone r { source := .tree tree, limit := timeout } with
    | some a => w.report a.envelope.toValue
    | none => .error .unanswered

/-- Answer a call tree. -/
def query (w : Surroundings) (v : Invocation) (target tree url : Option String) :
    Except Fault Outcome := do
  let settings ← w.loadSettings v
  let text ← match tree with
    | some text => .ok text
    | none => .error .noTree
  match Json.read text, given? url, given? target with
  | .error f, _, _ => .ok (w.finish 1 (errorLine ("call tree is not valid JSON: " ++ f.message)))
  | .ok tree, some url, _ => w.queryRemote url tree settings.requestTimeout
  | .ok tree, none, some target => w.queryLocal target tree settings.requestTimeout
  | .ok _, none, none =>
    .ok (w.finish 1 (errorLine "either a spec target or --url is required."))

end Surroundings

/-- **Run a command line.** -/
def run (w : Surroundings) (args : List String) : Except Fault Outcome :=
  match Invocation.ofArgs args with
  | .error e => .ok (w.ending e)
  | .ok v =>
    match v.order with
    | none => .ok (w.finish 0 usage)
    | some (.create force) => w.create v force
    | some (.serve target host port ui) => w.serve v target host port ui
    | some (.query target tree url) => w.query v target tree url

end CallTree.Command
