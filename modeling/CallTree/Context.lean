/-
# CallTree.Context — what the resolvers of one request share.

A context carries the inbound request, a table of state that resolvers may read and write, and the
log of failed resolvers. Reading the log orders it by position in the call tree: positions are
compared component by component, a position comes before those below it, and failures at one
position keep the order in which they were recorded.
-/
import CallTree.Table
import CallTree.Value

namespace CallTree

/-- A position in the tree that a request unfolds to: child and element indices, outermost
first. -/
abbrev Path := List Int

namespace Path

/-- The order of positions. -/
def le : Path → Path → Bool
  | [], _ => true
  | _ :: _, [] => false
  | a :: as, b :: bs => a < b || (a = b && le as bs)

end Path

/-- How a resolver failed: the kind of the failure and its text, which may be empty. -/
structure Failure where
  kind : String
  detail : String
  deriving DecidableEq, Repr

/-- What clients are told of a failure: its text, or its kind if the text is empty. -/
def Failure.report (f : Failure) : String := if f.detail = "" then f.kind else f.detail

/-- An entry of the failure log. -/
structure FailedCall where
  path : Path
  call : String
  report : String
  deriving DecidableEq, Repr

/-- **`Context`** — what is shared within one request. -/
structure Context where
  request : Value := .null
  state : Table Value := []
  failures : List FailedCall := []

namespace Context

/-- Record a failed call. -/
def record (c : Context) (path : Path) (call : String) (f : Failure) : Context :=
  { c with failures := c.failures ++ [⟨path, call, f.report⟩] }

/-- The failures in the order of their positions. -/
def ordered (c : Context) : List FailedCall := c.failures.mergeSort fun a b => a.path.le b.path

/-- **The failure log** as call names with reports. -/
def errors (c : Context) : List (List String) := c.ordered.map fun f => [f.call, f.report]

/-- Whether anything failed. -/
def hasErrors (c : Context) : Bool := !c.failures.isEmpty

/-- The failure log as a value. -/
def errorsValue (c : Context) : Value :=
  .list (c.errors.map fun pair => .list (pair.map .text))

/-- Read a state entry, or the given value if there is none. -/
def getState (c : Context) (key : String) (otherwise : Value) : Value :=
  (c.state.get? key).getD otherwise

/-- Write a state entry. -/
def setState (c : Context) (key : String) (value : Value) : Context :=
  { c with state := c.state.set key value }

end Context

end CallTree
