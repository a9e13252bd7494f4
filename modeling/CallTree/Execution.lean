/-
# CallTree.Execution — requests and their answers.

A request is a call tree, read or still to be read, with what came in beside it and possibly a time
limit. Requests that are executed together, or one after the other, share nothing but the order in
which their parts run: each has its own journal (`CallTree.Task.Machine`). A request that hangs without
a limit, or within an infinite one, is never answered.
-/
import CallTree.Envelope
import CallTree.Resolution
import CallTree.Task.Machine

namespace CallTree

/-- What a request asks for. -/
inductive Request.Source where
  /-- A call tree that is still to be read. -/
  | tree (v : Value)
  | call (n : Node)

/-- **`Request`** — a request, with the transport's part of it and a time limit. -/
structure Request where
  source : Request.Source
  inbound : Value := .null
  limit : Value := .null

/-- **`Response`** — the answer to a request, and the resolver calls made for it until then. -/
structure Response where
  envelope : Envelope
  calls : List Call

namespace Request

/-- The call that a request asks for. -/
def Source.read : Source → Except ShapeFault Node
  | .tree v => Node.read v
  | .call n => .ok n

/-- The request with a time limit of its own or, failing that, the given one. -/
def orLimit (q : Request) (limit : Value) : Request :=
  if q.limit.isNull then { q with limit } else q

/-- A resolution under a time limit. -/
def limited (limit : Value) (resolution : Work) : Work :=
  if limit.isNull then resolution
  else
    match Limit.seconds limit with
    | .error f => .fail (.limit f)
    | .ok x =>
      match Limit.kind x with
      | .before => .fail (.elapsed x)
      | .atOnce => resolution.atOnce (.elapsed x)
      | .idle => .gatherAll [resolution] fun results => .succeed (results.headD .null)

/-- A request as a task. -/
def task (r : Registry) (q : Request) : Work :=
  match q.source.read with
  | .error f => .fail (.shape f)
  | .ok n => limited q.limit (Resolution.resolve r n ⟨Registry.rootName, r.root, .null⟩ [])

/-- The journal that a request starts with. -/
def journal (q : Request) : Journal := { context := { request := q.inbound } }

/-- The envelope of a request of which the outcome is known. -/
def envelope (j : Journal) : Except Abort Value → Envelope
  | .ok v => .success v j.context.errors
  | .error e => .failure Envelope.processingTag e.message

/-- The response to a request that came to an outcome in a journal. -/
def response (outcome : Except Abort Value) (j : Journal) : Response :=
  ⟨envelope j outcome, j.calls⟩

/-- The response to a request when nothing is left to run in its lane: its outcome, or if there is
none, that its time limit is up, as it is in the end. -/
def respond (q : Request) (l : Lane Journal Abort Value) : Option Response :=
  match l.answer with
  | some a => some (response a.outcome a.state)
  | none =>
    match Limit.seconds q.limit with
    | .error _ => none
    | .ok x => if Limit.passes x then some (response (.error (.elapsed x)) l.state) else none

end Request

namespace Execution

/-- The root task and the first journal of each request. -/
def roots (r : Registry) (qs : List Request) :
    Vector (Task Journal Abort Value × Journal) qs.length :=
  Vector.ofFn fun i => (qs[i].task r, qs[i].journal)

/-- **Execute requests together**, on one registry. -/
def together (r : Registry) (qs : List Request) : List (Option Response) :=
  let m := (Machine.start (roots r qs)).run
  (List.finRange qs.length).map fun i => qs[i].respond m.lanes[i]

/-- **Execute a request** by itself. -/
def alone (r : Registry) (q : Request) : Option Response := (together r [q]).head?.join

/-- **Execute requests one after the other**, on one registry and without a break: what an aborted
request has left to run goes on beside the next. No time limit is watched from outside; a request
that hangs keeps those after it waiting. -/
def inTurn (r : Registry) (qs : List Request) : List (Option Response) :=
  let m := (Machine.idle (roots r qs)).serve (List.finRange qs.length)
  (List.finRange qs.length).map fun i =>
    m.lanes[i].answer.map fun a => Request.response a.outcome a.state

end Execution

end CallTree
