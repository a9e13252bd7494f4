/-
# CallTree.Envelope — the answer to one request.

An answer either carries data, with the log of failed calls if there are any, or it is a failure of
the whole request: one tagged message and no data.
-/
import CallTree.Value

namespace CallTree

/-- **`Envelope`** — the answer to one request. -/
inductive Envelope where
  | success (data : Value) (errors : List (List String))
  | failure (tag message : String)
  deriving Inhabited

namespace Envelope

/-- The tag of failures of the whole request. -/
def processingTag : String := "processingError"

/-- Whether an answer carries data. -/
def ok : Envelope → Bool
  | .success _ _ => true
  | .failure _ _ => false

/-- A failure log as a value. -/
def errorsValue (errors : List (List String)) : Value :=
  .list (errors.map fun entry => .list (entry.map .text))

/-- **The answer as sent**; an empty failure log is left out. -/
def toFields : Envelope → Table Value
  | .success data [] => [("data", data)]
  | .success data errors => [("data", data), ("errors", errorsValue errors)]
  | .failure tag message => [("errors", errorsValue [[tag, message]])]

/-- The answer as a value. -/
def toValue (e : Envelope) : Value := .object e.toFields

end Envelope

end CallTree
