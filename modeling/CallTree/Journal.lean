/-
# CallTree.Journal — what happens in a request.

The calls of one request share a journal: the context that resolvers see, and the history of
resolver calls in the order in which they start and end. A call is logged with its position, so that
two calls of one field in different places are told apart.
-/
import CallTree.Context

namespace CallTree

/-- **`Call`** — a resolver call: a field of an owner at a position, with what it is given. -/
structure Call where
  owner : String
  field : String
  path : Path
  args : Table Value
  data : Value

/-- An entry of the history. -/
inductive Journal.Event where
  | started (call : Call)
  | ended (call : Call) (outcome : Except Failure Value)

/-- **`Journal`** — the context of a request and the history of its resolver calls. -/
structure Journal where
  context : Context
  history : List Journal.Event := []

namespace Journal

/-- Log that a call starts. -/
def start (j : Journal) (call : Call) : Journal :=
  { j with history := j.history ++ [.started call] }

/-- Log how a call ends; a failure goes into the failure log of the context too. -/
def finish (j : Journal) (call : Call) (outcome : Except Failure Value) : Journal :=
  { context :=
      match outcome with
      | .ok _ => j.context
      | .error f => j.context.record call.path call.field f
    history := j.history ++ [.ended call outcome] }

/-- Write the state of the context. -/
def setState (j : Journal) (state : Table Value) : Journal :=
  { j with context := { j.context with state } }

/-- The resolver calls, in the order in which they started. -/
def calls (j : Journal) : List Call :=
  j.history.filterMap fun
    | .started call => some call
    | .ended _ _ => none

end Journal

end CallTree
