/-
# CallTree.Settings — settings of servers and requests.

Settings come from a table (a settings file, or a host's own) and from the environment, which goes
before. The values in them are what was given, of any kind, except for the path, which always has
one slash in front and none at its end. `ofTable` brings all of them to their proper kinds; what the
environment changes is brought there too (`withEnv`).

A fault names the first value, in a fixed order, that cannot be brought to its kind.
-/
import CallTree.Number.Reading
import CallTree.Text.Blank
import CallTree.Text.Lower
import CallTree.Value.Compare
import CallTree.Value.Identical
import CallTree.Value.Literal

namespace CallTree

/-- **`Settings`** — settings. -/
structure Settings where
  host : Value
  port : Value
  path : String
  ui : Value
  corsOrigins : Value
  requestTimeout : Value
  logLevel : Value
  deriving DecidableEq

namespace Settings

/-- Why a value is no setting. -/
inductive Fault where
  /-- A text or octets that spell no whole number; `shown` quotes them. -/
  | portText (shown : String)
  /-- A whole number of too many digits. -/
  | portDigits (count : Nat)
  | portKind (k : Value.Kind)
  | portNaN
  | portInfinite
  /-- A text or octets that spell no number; `shown` quotes them. -/
  | timeoutText (shown : String)
  | timeoutKind (k : Value.Kind)
  | timeoutTooLarge
  | origins (k : Value.Kind)
  /-- A level that cannot be written. -/
  | level (f : Decimal.Fault)
  | path (k : Value.Kind)
  /-- A time limit from the environment that is no text. -/
  | envTimeout (k : Value.Kind)
  /-- The settings as a whole are no table. -/
  | noTable (k : Value.Kind)
  /-- A setting that does not exist. -/
  | unknown (name : String)

/-- So much of a text that spells no whole number is shown. -/
def shownLength : Nat := 200

/-- The sentence of a fault. -/
def Fault.message : Fault → String
  | .portText shown => "invalid literal for int() with base 10: " ++
      String.ofList (shown.toList.take shownLength)
  | .portDigits count => Reading.tooManyDigitsMessage count
  | .portKind k => "int() argument must be a string, a bytes-like object or a real number, not '" ++
      k.faultName ++ "'"
  | .portNaN => "cannot convert float NaN to integer"
  | .portInfinite => "cannot convert float infinity to integer"
  | .timeoutText shown => "could not convert string to float: " ++ shown
  | .timeoutKind k => "float() argument must be a string or a real number, not '" ++
      k.faultName ++ "'"
  | .timeoutTooLarge => "int too large to convert to float"
  | .origins k => "'" ++ k.faultName ++ "' object is not iterable"
  | .level f => f.message
  | .path .octets => "a bytes-like object is required, not 'str'"
  | .path k => "'" ++ k.faultName ++ "' object has no attribute 'strip'"
  | .envTimeout k => "'" ++ k.faultName ++ "' object has no attribute 'strip'"
  | .noTable k => "'" ++ k.faultName ++ "' object has no attribute 'get'"
  | .unknown name =>
    "Settings.__init__() got an unexpected keyword argument '" ++ name ++ "'"

/-! ## Defaults -/

/-- Origins that may call a server from other pages unless others are given. -/
def defaultOrigins : Value :=
  .list [.text "http://localhost:3000", .text "http://127.0.0.1:3000"]

/-- **The default settings.** -/
def default : Settings where
  host := .text "127.0.0.1"
  port := .int 8000
  path := "/graph"
  ui := .bool false
  corsOrigins := defaultOrigins
  requestTimeout := .null
  logLevel := .text "INFO"

/-! ## Proper kinds -/

/-- The text of octets that are meant as ASCII; any other octet becomes a mark that spells no
number. -/
def octetText (bs : List UInt8) : String :=
  String.ofList (bs.map fun b => if b < 0x80 then Char.ofNat b.toNat else '?')

/-- The fault of a text, quoted, that is no whole number. -/
def Fault.ofReading (shown : String) : Reading.Fault → Fault
  | .malformed => .portText shown
  | .tooManyDigits count => .portDigits count

/-- A port as a whole number. -/
def readPort : Value → Except Fault Int
  | .bool b => .ok (if b then 1 else 0)
  | .int n => .ok n
  | .float .nan => .error .portNaN
  | .float (.infinite _) => .error .portInfinite
  | .float (.finite negative units) => .ok (Binary64.truncate negative units)
  | .text s => (Reading.int s).mapError (.ofReading (Text.Quoted.text s))
  | .octets bs => (Reading.int (octetText bs)).mapError (.ofReading (Text.Quoted.octets bs))
  | v => .error (.portKind v.kind)

/-- A number of seconds. -/
def readSeconds : Value → Except Fault Binary64
  | .bool b => .ok (.finite false (if b then Binary64.one else 0))
  | .int n =>
    match Binary64.ofInt? n with
    | some x => .ok x
    | none => .error .timeoutTooLarge
  | .float x => .ok x
  | .text s =>
    match Reading.float? s with
    | some x => .ok x
    | none => .error (.timeoutText (Text.Quoted.text s))
  | .octets bs =>
    match Reading.float? (octetText bs) with
    | some x => .ok x
    | none => .error (.timeoutText (Text.Quoted.octets bs))
  | v => .error (.timeoutKind v.kind)

/-- A time limit: none, or a number of seconds. -/
def readTimeout (v : Value) : Except Fault Value :=
  if v.isNull then .ok .null else (readSeconds v).map .float

/-- The texts that switch something on. -/
def trueWords : List String := ["1", "true", "yes", "on"]

/-- A switch: a text is on if it is one of the words for that, in any case and with blanks around
it; any other value counts as it is. -/
def readSwitch : Value → Bool
  | .text s => trueWords.contains (Text.lower (Text.strip s))
  | v => v.truthy

/-- The items that a value has one after the other. -/
def readItems : Value → Except Fault (List Value)
  | .list vs => .ok vs
  | .tuple vs => .ok vs
  | .text s => .ok (s.toList.map fun c => .text (String.singleton c))
  | .octets bs => .ok (bs.map fun b => .int b.toNat)
  | .object fs => .ok (fs.map fun f => .text f.1)
  | v => .error (.origins v.kind)

/-- A level of logging, in capitals. -/
def readLevel (v : Value) : Except Fault String := (v.display.mapError .level).map Text.upper

/-- Drop slashes from both ends. -/
def stripSlashes (s : String) : String := String.ofList (Text.trimWhile (· = '/') s.toList)

/-- A path: one slash in front, none at the end. -/
def readPath : Value → Except Fault String
  | .text s => .ok ("/" ++ stripSlashes s)
  | v => .error (.path v.kind)

/-! ## Making settings -/

/-- The value under a key, or a default. -/
def orDefault (data : Table Value) (key : String) (v : Value) : Value := (data.get? key).getD v

/-- The names of the settings, in the order in which they are written. -/
def names : List String :=
  ["host", "port", "path", "ui", "cors_origins", "request_timeout", "log_level"]

/-- **Settings from values as they are**; only the path is brought to its form. -/
def ofFields (data : Table Value) : Except Fault Settings :=
  match data.keys.find? fun name => !names.contains name with
  | some name => .error (.unknown name)
  | none =>
    (readPath (orDefault data "path" (.text default.path))).map fun path =>
      { host := orDefault data "host" default.host
        port := orDefault data "port" default.port
        path
        ui := orDefault data "ui" default.ui
        corsOrigins := orDefault data "cors_origins" default.corsOrigins
        requestTimeout := orDefault data "request_timeout" default.requestTimeout
        logLevel := orDefault data "log_level" default.logLevel }

/-- **Settings from a table**, each value brought to its kind. Keys that name no setting do not
count. -/
def ofTable (data : Table Value) : Except Fault Settings := do
  let port ← readPort (orDefault data "port" default.port)
  let origins ← readItems (orDefault data "cors_origins" default.corsOrigins)
  let timeout ← readTimeout (orDefault data "request_timeout" default.requestTimeout)
  let level ← readLevel (orDefault data "log_level" default.logLevel)
  let path ← readPath (orDefault data "path" (.text default.path))
  return {
    host := orDefault data "host" default.host
    port := .int port
    path
    ui := .bool (readSwitch (orDefault data "ui" default.ui))
    corsOrigins := .list origins
    requestTimeout := timeout
    logLevel := .text level }

/-- Settings from a value that should be a table. -/
def ofValue : Value → Except Fault Settings
  | .object fs => ofTable fs
  | v => .error (.noTable v.kind)

/-- **The settings as a table.** -/
def toTable (s : Settings) : Except Fault (Table Value) :=
  (readItems s.corsOrigins).map fun origins =>
    [("host", s.host), ("port", s.port), ("path", .text s.path), ("ui", s.ui),
      ("cors_origins", .list origins), ("request_timeout", s.requestTimeout),
      ("log_level", s.logLevel)]

/-- The path of an endpoint below the path of the settings. -/
def subPath (s : Settings) (name : String) : String :=
  String.ofList (Text.dropEndWhile (· = '/') s.path.toList) ++ "/" ++ name

/-! ## Environment -/

/-- The variables of the environment that count. -/
def envNames : List String :=
  ["TYPEGRAPH_HOST", "TYPEGRAPH_PORT", "TYPEGRAPH_PATH", "TYPEGRAPH_UI",
    "TYPEGRAPH_REQUEST_TIMEOUT", "TYPEGRAPH_LOG_LEVEL"]

/-- Write a value from the environment, if its variable is set, after reading it. -/
def override (env : Table Value) (name key : String) (read : Value → Except Fault Value)
    (data : Table Value) : Except Fault (Table Value) :=
  match env.get? name with
  | none => .ok data
  | some v => (read v).map (data.set key)

/-- A time limit from the environment; a blank one is none. -/
def readEnvTimeout : Value → Except Fault Value
  | .text s =>
    let text := Text.strip s
    if text = "" then .ok .null else (readSeconds (.text text)).map .float
  | .octets bs =>
    let octets := Text.trimWhile Text.isBlankOctet bs
    if octets.isEmpty then .ok .null else (readSeconds (.octets octets)).map .float
  | v => .error (.envTimeout v.kind)

/-- A table of settings with what the environment says instead. -/
def overridden (env : Table Value) (data : Table Value) : Except Fault (Table Value) := do
  let data ← override env "TYPEGRAPH_HOST" "host" .ok data
  let data ← override env "TYPEGRAPH_PORT" "port" (fun v => (readPort v).map .int) data
  let data ← override env "TYPEGRAPH_PATH" "path" .ok data
  let data ← override env "TYPEGRAPH_UI" "ui" (fun v => .ok (.bool (readSwitch v))) data
  let data ← override env "TYPEGRAPH_REQUEST_TIMEOUT" "request_timeout" readEnvTimeout data
  override env "TYPEGRAPH_LOG_LEVEL" "log_level" .ok data

/-- **The settings with what the environment says instead**, brought to their kinds. The variables
of a process are texts; a host may set others. -/
def withEnv (s : Settings) (env : Table Value) : Except Fault Settings := do
  let data ← s.toTable
  let data ← overridden env data
  ofTable data

/-- Whether two settings are equal, value by value. -/
def same (s t : Settings) : Bool :=
  s.host.same t.host && s.port.same t.port && s.path = t.path && s.ui.same t.ui &&
    s.corsOrigins.same t.corsOrigins && s.requestTimeout.same t.requestTimeout &&
    s.logLevel.same t.logLevel

end Settings

end CallTree
