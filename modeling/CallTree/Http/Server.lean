/-
# CallTree.Http.Server — a registry as a server.

The path of the settings serves call trees: in the query of a GET, in the body of a POST; any other
method is refused there by name. Below it are the description of the registry and, if the settings
ask for it and there is one, the explorer page. Two more paths tell that the server runs, and what
it serves; four are kept for pages about the server itself. The path of the settings is a template.

How requests find their routes, and what is added to a response for other origins, is a matter of the
framework that serves them (`Framework`). In the usual one (`Framework.usual`) routes are tried in order. If
none fits path and method, the first that fits the path alone names its methods; a path that differs from a
served one by slashes at its end is redirected there.

Settings can be such that a server does not start (`Server.start`), or that a request breaks it off
(`Server.handle`). A request that hangs without a time limit has no response.
-/
import CallTree.Execution
import CallTree.Explorer
import CallTree.Http.Cors
import CallTree.Http.Template
import CallTree.Json.Plain
import CallTree.Payload
import CallTree.Settings

namespace CallTree.Http

/-! ## Frameworks -/

/-- A path and methods with what answers them. What comes of a request is a response, or none if it hangs. -/
structure Route (T E : Type) where
  path : T
  methods : List String
  answer : Request → Except E (Option Response)

/-- **`Framework`** — what serves routes: it reads paths as templates, finds the route for a request, and lets
requests from other origins pass. -/
structure Framework where
  /-- Paths with parameters. -/
  Template : Type
  /-- Why a text is no template. -/
  PathFault : Type
  /-- Why a value holds no origins. -/
  OriginFault : Type
  read : String → Except PathFault Template
  /-- The template of a path without parameters. -/
  ofPath : String → Template
  /-- The names of the parameters. -/
  names : Template → List String
  fits : Template → String → Bool
  /-- Answer by the routes of a server. -/
  dispatch {E : Type} : List (Route Template E) → Request → Except E (Option Response)
  /-- Whether origins can be looked up in a value. -/
  check : Value → Except OriginFault Unit
  /-- Serve the requests from these origins too. -/
  serve {E : Type} : Value → (Request → Except E (Option Response)) → Request → Except E (Option Response)
  pathMessage : PathFault → String
  originMessage : OriginFault → String

namespace Framework

/-- A path with a slash at its end, or without any there if it has one. -/
def otherSlash (path : String) : String :=
  if path.toList.getLast? = some '/' then
    String.ofList (Text.dropEndWhile (· = '/') path.toList)
  else path ++ "/"

/-- Answer by the first route that fits. -/
def firstRoute {E : Type} (routes : List (Route Http.Template E)) (q : Request) : Except E (Option Response) :=
  let onPath := routes.filter (·.path.fits q.path)
  match onPath.find? fun r => r.methods.contains q.method with
  | some r => r.answer q
  | none =>
    match onPath with
    | r :: _ => .ok (some (wrongMethod r.methods))
    | [] =>
      if q.path ≠ "/" && routes.any fun r => r.path.fits (otherSlash q.path) then
        .ok (some redirect)
      else .ok (some notFound)

/-- **The usual framework.** -/
def usual : Framework where
  Template := Http.Template
  PathFault := Template.Fault
  OriginFault := Cors.Fault
  read := Template.read
  ofPath := Template.ofPath
  names := Template.names
  fits := Template.fits
  dispatch := firstRoute
  check origins := Cors.Policy.check { origins }
  serve origins inner q := Cors.Policy.serve { origins } inner q
  pathMessage := Template.Fault.message
  originMessage := Cors.Fault.message

end Framework

/-! ## Servers -/

/-- **`Server`** — a registry with settings, and the explorer page if there is one. -/
structure Server (F : Framework) where
  registry : Registry
  settings : Settings
  page : Option String
  /-- Where call trees are served. -/
  path : F.Template
  /-- Where the description is. -/
  specPath : F.Template
  /-- Where the explorer page is. -/
  pagePath : F.Template

variable {F : Framework}

/-- Why a server does not start, or breaks off. -/
inductive Server.Fault (F : Framework) where
  | path (f : F.PathFault)
  /-- The path has a parameter with the name that call trees have in queries. -/
  | takenName
  | origins (f : F.OriginFault)
  /-- A description with octets that are no text. -/
  | description (f : Text.Utf8.Fault)
  /-- A summary with octets that are no text. -/
  | summaryText (f : Text.Utf8.Fault)
  /-- A summary that no document can say. -/
  | summary (f : Json.PrintFault)

/-- The field of a query that holds a call tree. -/
def treeField : String := "graph"

/-- How the writer of descriptions names octets that are no text. -/
def octetsMessage (f : Text.Utf8.Fault) : String :=
  match f.kind with
  | .truncated => "incomplete utf-8 byte sequence from index " ++ toString f.position
  | _ => "invalid utf-8 sequence of " ++ toString f.octets.length ++ " bytes from index " ++
      toString f.position

/-- The sentence of a fault. -/
def Server.Fault.message : Server.Fault F → String
  | .path f => F.pathMessage f
  | .takenName =>
    let tick := String.singleton (Char.ofNat 0x60)
    "Cannot use " ++ tick ++ "Query" ++ tick ++ " for path param '" ++ treeField ++ "'"
  | .origins f => F.originMessage f
  | .description f => "Error serializing to JSON: " ++ octetsMessage f
  | .summaryText f => f.message
  | .summary f => f.message

/-- What comes of a request: a response, or none if it hangs. -/
abbrev Answer (F : Framework) := Except (Server.Fault F) (Option Response)

/-- The response to a method that no call tree comes with. -/
def methodNotAllowed : Response :=
  { respond 405 (.single "error"
      (.text "The graph endpoint only supports GET and POST requests")) with
    allow := some "GET, POST" }

/-- The methods that are refused by name where call trees are served. -/
def rejectedMethods : List String :=
  ["PUT", "PATCH", "DELETE", "OPTIONS", "HEAD", "TRACE", "CONNECT"]

namespace Server

/-- Execute a call tree and send the answer. -/
def execute (s : Server F) (q : Request) (tree : Value) : Option Response :=
  (Execution.alone s.registry
    { source := .tree tree, inbound := q.inbound, limit := s.settings.requestTimeout }).map
    fun a => respond 200 a.envelope.toValue

/-- The call tree in the query of a request. -/
def queryTree (q : Request) : Except Payload.Fault Value :=
  match queryValue? q.query treeField with
  | none => .error .missing
  | some s => Payload.decode (.text s)

/-- Answer with a call tree, or with why there is none. -/
def answerTree (s : Server F) (q : Request) : Except Payload.Fault Value → Option Response
  | .error f => some (failure f.message)
  | .ok tree => s.execute q tree

/-- The description of the registry as a response. -/
def description (s : Server F) : Except (Fault F) Response :=
  ((Json.plain .lenient s.registry.describe).mapError .description).map (respond 200)

/-- What a server tells of itself. -/
def status (s : Server F) : Value :=
  .object [("types", .int s.registry.types.length), ("queries", .int s.registry.root.length),
    ("path", .text s.settings.path), ("ui", s.settings.ui)]

/-- What a server tells of itself as a response. -/
def summary (s : Server F) : Except (Fault F) Response :=
  match Json.plain .strict s.status with
  | .error f => .error (.summaryText f)
  | .ok v =>
    match Json.write .compact v with
    | .error f => .error (.summary f)
    | .ok _ => .ok (respond 200 v)

/-- The explorer page of a server, if it has one to show. -/
def explorer? (s : Server F) : Option String :=
  if s.settings.ui.truthy then
    s.page.map fun page => Explorer.fill page
      { graphUrl := s.settings.path, specUrl := s.settings.subPath "__spec" }
  else none

/-- The paths of pages about the server itself. What they show is not settled here. -/
def ownPages : List String := ["/openapi.json", "/docs", "/docs/oauth2-redirect", "/redoc"]

/-- The routes of a server, in the order in which they are tried. -/
def routes (s : Server F) : List (Route F.Template (Fault F)) :=
  let always (r : Response) : Request → Answer F := fun _ => .ok (some r)
  ownPages.map (fun path =>
    { path := F.ofPath path, methods := ["GET", "HEAD"], answer := always (html "") }) ++
  [{ path := s.path, methods := ["GET"], answer := fun q => .ok (s.answerTree q (queryTree q)) },
    { path := s.path, methods := ["POST"]
      answer := fun q => .ok (s.answerTree q (Payload.decodeBody q.body)) },
    { path := s.path, methods := rejectedMethods, answer := always methodNotAllowed },
    { path := s.specPath, methods := ["GET"], answer := fun _ => s.description.map some }] ++
  (match s.explorer? with
    | some page => [{ path := s.pagePath, methods := ["GET"], answer := always (html page) }]
    | none => []) ++
  [{ path := F.ofPath "/health", methods := ["GET"]
     answer := always (respond 200 (.single "status" (.text "ok"))) },
    { path := F.ofPath "/__status", methods := ["GET"], answer := fun _ => s.summary.map some }]

/-- **Start a server.** -/
def start (F : Framework) (registry : Registry) (settings : Settings) (page : Option String) :
    Except (Fault F) (Server F) := do
  let path ← (F.read settings.path).mapError .path
  if (F.names path).contains treeField then throw .takenName
  let specPath ← (F.read (settings.subPath "__spec")).mapError .path
  let pagePath ← (F.read (settings.subPath "ui")).mapError .path
  return { registry, settings, page, path, specPath, pagePath }

/-- **Answer a request.** -/
def handle (s : Server F) (q : Request) : Answer F :=
  match F.check s.settings.corsOrigins with
  | .error f => .error (.origins f)
  | .ok () => F.serve s.settings.corsOrigins (F.dispatch s.routes) q

end Server

end CallTree.Http
