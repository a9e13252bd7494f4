/-
# CallTree.Http.Cors — requests from other origins.

A request that names its origin is answered as any other, with the origin allowed if it is among
those that are served. A browser may first ask whether a request would be allowed; the answer to
that is given here. Requests may carry cookies, and so an origin is always allowed by its name.

Origins are given as a value: a list of them, or a text, in which an origin is served if it occurs.
The mark `*` serves all. A value in which nothing can be looked up serves no request at all.
-/
import CallTree.Http.Message
import CallTree.Value.Compare

namespace CallTree.Http.Cors

/-- Why a value holds no origins. -/
inductive Fault where
  /-- Octets hold no texts. -/
  | octets
  | kind (k : Value.Kind)
  deriving DecidableEq, Repr

/-- The sentence of a fault. -/
def Fault.message : Fault → String
  | .octets => "a bytes-like object is required, not 'str'"
  | .kind k => "argument of type '" ++ k.faultName ++ "' is not iterable"

/-- **`Policy`** — the origins and the methods that are served. -/
structure Policy where
  origins : Value
  methods : List String := ["GET", "POST"]

namespace Policy

/-- Whether origins can be looked up. -/
def check (p : Policy) : Except Fault Unit :=
  match p.origins with
  | .text _ => .ok ()
  | .list _ => .ok ()
  | .tuple _ => .ok ()
  | .object _ => .ok ()
  | .octets _ => .error .octets
  | v => .error (.kind v.kind)

/-- Whether a text is among the origins. -/
def names (p : Policy) (s : String) : Bool := (p.origins.contains (.text s)).toOption.getD false

/-- Whether all origins are served. -/
def isOpen (p : Policy) : Bool := p.names "*"

/-- Whether an origin is served. -/
def allows (p : Policy) (origin : String) : Bool := p.isOpen || p.names origin

/-- The origin that a response allows. -/
def allowedOrigin (p : Policy) (origin : String) : Option String :=
  if p.allows origin then some origin else none

/-- The answer to the question whether a request would be allowed. -/
def preflight (p : Policy) (origin method : String) : Response :=
  let faults := (if p.allows origin then [] else ["origin"]) ++
    (if p.methods.contains method then [] else ["method"])
  let answer :=
    if faults.isEmpty then plainText 200 "OK"
    else plainText 400 ("Disallowed CORS " ++ String.intercalate ", " faults)
  { answer with allowOrigin := p.allowedOrigin origin }

/-- **Serve** a request under a policy, if it is not the question itself. -/
def serve {m : Type → Type} [Monad m] (p : Policy) (inner : Request → m (Option Response))
    (q : Request) : m (Option Response) :=
  match q.header? "origin" with
  | none => inner q
  | some origin =>
    match q.method, q.header? "access-control-request-method" with
    | "OPTIONS", some method => return some (p.preflight origin method)
    | _, _ => do
      let answer ← inner q
      return answer.map fun r => { r with allowOrigin := p.allowedOrigin origin }

end Policy

end CallTree.Http.Cors
