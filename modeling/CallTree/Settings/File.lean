/-
# CallTree.Settings.File — settings kept in a file.

A file without anything in it, or one that says nothing (`false`, `[]`), gives the default
settings, and so does no file at all. The environment goes before the file.

How a file says what it says is a matter of its format (`Settings.Format`); settings files are written
as YAML (`Format.yaml`).
-/
import CallTree.Settings
import CallTree.Text.Replace
import CallTree.Yaml.Printer
import CallTree.Yaml.Reader

namespace CallTree.Settings

/-- The name of the settings file. -/
def fileName : String := "typegraph.yaml"

/-- **`Format`** — a format of files: what reads a text as a value, and what writes a table. -/
structure Format where
  /-- Why a text is no document. -/
  ReadFault : Type
  /-- Why a table has no document. -/
  PrintFault : Type
  read : String → Except ReadFault Value
  print : Table Value → Except PrintFault String
  /-- The sentence of a fault, for the text that it is about. -/
  readMessage : String → ReadFault → String
  printMessage : PrintFault → String

/-- The format of settings files. -/
def Format.yaml : Format where
  ReadFault := Yaml.Fault
  PrintFault := Decimal.Fault
  read := Yaml.read
  print := Yaml.print
  readMessage text f := f.message text.toList
  printMessage := Decimal.Fault.message

/-- Why a settings file cannot be used. -/
inductive FileFault (F : Format) where
  /-- A file that is no document; its text is kept to show the place. -/
  | document (text : String) (f : F.ReadFault)
  /-- Settings that have no document. -/
  | output (f : F.PrintFault)
  | setting (f : Fault)

variable (F : Format)

/-- The sentence of a fault. -/
def FileFault.message {F : Format} : FileFault F → String
  | .document text f => F.readMessage text f
  | .output f => F.printMessage f
  | .setting f => f.message

/-- What a settings file says. -/
def readFile (text : String) : Except (FileFault F) Value :=
  match F.read (Text.ofFile text) with
  | .error f => .error (.document (Text.ofFile text) f)
  | .ok v => .ok (if v.truthy then v else .object [])

/-- **Load** settings from a file, if there is one, and the environment. -/
def load (file : Option String) (env : Table Value) : Except (FileFault F) Settings := do
  let data ← match file with
    | some text => readFile F text
    | none => .ok (.object [])
  let settings ← (ofValue data).mapError .setting
  (settings.withEnv env).mapError .setting

/-- **The text of a settings file.** -/
def save (s : Settings) : Except (FileFault F) String := do
  let data ← s.toTable.mapError .setting
  (F.print data).mapError .output

end CallTree.Settings
