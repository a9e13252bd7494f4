/-
# CallTree.Limit — time limits of requests.

A limit is given as a value: none for no limit, else a number of seconds. This library measures no
time: what runs takes none, and all of it passes while nothing is left to run. A limit of zero or less is
up before anything is resolved, and one that is less than what a clock can tell (`brief`) soon after. Any
other is up only when nothing is left to run, so it matters exactly for requests that hang. An infinite limit
is not up even then.
-/
import CallTree.Number.Decimal
import CallTree.Value

namespace CallTree.Limit

/-- Why a value is no time limit. -/
inductive Fault where
  | noNumber (k : Value.Kind)
  | tooLarge
  deriving DecidableEq, Repr

/-- The sentence of a fault. -/
def Fault.message : Fault → String
  | .noNumber k => "'<=' not supported between instances of '" ++ k.faultName ++ "' and 'int'"
  | .tooLarge => "int too large to convert to float"

/-- The seconds that a value stands for. -/
def seconds : Value → Except Fault Binary64
  | .bool b => .ok (.finite false (if b then Binary64.one else 0))
  | .int n => (Binary64.ofInt? n).elim (.error .tooLarge) .ok
  | .float x => .ok x
  | v => .error (.noNumber v.kind)

/-- When a limit is up. -/
inductive Kind where
  /-- Before anything is resolved. -/
  | before
  /-- After the first turn of a request: no time has to pass, or the limit is no proper number. -/
  | atOnce
  /-- When nothing is left to run, if ever. -/
  | idle
  deriving DecidableEq, Repr

/-- The seconds from one reading of a clock to the next: a billionth. -/
def tick : Binary64 := .ofRatio false 1 1000000000

/-- Whether so many seconds are less than what a clock can tell, so that it need not go on for them to be up. -/
def brief (x : Binary64) : Bool :=
  match x.point?, tick.point? with
  | some p, some least => p.lt least
  | _, _ => false

/-- When a limit of so many seconds is up. -/
def kind (x : Binary64) : Kind :=
  match x.point? with
  | none => .atOnce
  | some p => if Binary64.Point.lt (.units 0) p then (if brief x then .atOnce else .idle) else .before

/-- So many seconds pass in the end, unless they are infinite. -/
def passes : Binary64 → Bool
  | .infinite false => false
  | _ => true

/-- The sentence that tells that a limit is up. -/
def elapsedMessage (x : Binary64) : String :=
  "Request timed out after " ++ Decimal.duration x ++ "s."

end CallTree.Limit
