/-
# CallTree.Resolver — what a host supplies for a field.

A resolver is a function of the arguments of a call and the value above it. What it does is laid out
as a script: it may let others run, never come back, look at the context it shares with the other
calls of its request and write state there, and in the end it returns a value or fails. One that waits
for ever is ended by being called off: a script has no step for that, and so no say in it.

A script sees the whole context but changes its state alone; the failure log and the inbound request
are out of its reach.
-/
import CallTree.Context

namespace CallTree

/-- **`Script`** — what a resolver does, step by step. -/
inductive Script where
  /-- Return a value or fail. -/
  | done (outcome : Except Failure Value)
  /-- Let others run first. -/
  | pause (next : Script)
  /-- Wait for ever, and end when called off. -/
  | hang
  /-- Write the state, and go on with what the context was before. -/
  | consult (state : Context → Table Value) (next : Context → Script)

namespace Script

/-- Return a value. -/
def value (v : Value) : Script := .done (.ok v)

/-- Look at the context and leave it as it is. -/
def look (next : Context → Script) : Script := .consult Context.state next

/-- Let others run so many times, then go on. -/
def pauses : Nat → Script → Script
  | 0, s => s
  | n + 1, s => .pause (pauses n s)

end Script

/-- A resolver: the arguments of a call and the value above it to a script. -/
abbrev Resolver := Table Value → Value → Script

end CallTree
