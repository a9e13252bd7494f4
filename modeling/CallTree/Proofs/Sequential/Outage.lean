/-
# CallTree.Proofs.Sequential.Outage — an evaluation in which one field fails.

Let the resolver of one field fail on some of its inputs (`Outage`). On call trees without conditional
blocks, in which no name comes twice among the children of a call (`Node.Plain`), this has local effects
only: what the struck calls had becomes null (`blank`), and instead of all failures below them there is
one for each (`Outage.log`). Evaluation succeeds as before (`survives_evaluate`).

A struck call below another is not made any more, so it is the outermost ones that count. `blank` finds
them from above, and `Outage.covers` says what is below one.
-/
import CallTree.Proofs.Sequential.Positions
import CallTree.Proofs.Table

namespace CallTree

/-- **Call trees without conditional blocks**, in which no name comes twice among the children of a
call. A composition may ask for the same thing twice. -/
inductive Node.Plain : Node → Prop where
  | mk {name : String} {args : Option (Table Value)} {children : List Node}
      (noWhen : name ≠ Node.whenName)
      (distinct : name ≠ Node.composeName → (children.map Node.name).Nodup)
      (each : ∀ c ∈ children, c.Plain) : Plain (.mk name args children)

/-! ## Data with gaps -/

/-- Change the fields of an object. -/
def Value.onObject (f : Table Value → Table Value) : Value → Value
  | .object fields => .object (f fields)
  | v => v

/-- Change the fields of an object at a position, or those of the objects in a list. -/
def Value.overObjects (f : Path → Table Value → Table Value) (path : Path) : Value → Value
  | .list items => .list (items.mapIdx fun i item => item.onObject (f (path ++ [(i : Int)])))
  | v => v.onObject (f path)

mutual

/-- **The result of a call with gaps**: at the positions that are hit, there is null under the name of
the call, and nothing below. -/
def blank (hit : Path → Bool) : Node → Path → Value → Value
  | .mk name _ children, path, v =>
    if name = Node.composeName then .list (blankEach hit children path 0 (v.items?.getD []))
    else if hit path then .single name .null
    else
      .single name (((v.fields.get? name).getD .null).overObjects
        (fun path fields => blankFields hit children path 0 fields) path)

/-- The results of the calls of a composition, with gaps. -/
def blankEach (hit : Path → Bool) : List Node → Path → Nat → List Value → List Value
  | n :: rest, path, i, v :: vs =>
    blank hit n (path ++ [(i : Int)]) v :: blankEach hit rest path (i + 1) vs
  | _, _, _, vs => vs

/-- The results of the children of a call, each a field of one object, with gaps. -/
def blankFields (hit : Path → Bool) : List Node → Path → Nat → Table Value → Table Value
  | n :: rest, path, i, e :: fields =>
    (blank hit n (path ++ [(i : Int)]) (.single e.1 e.2)).fields
      ++ blankFields hit rest path (i + 1) fields
  | _, _, _, fields => fields

end

section

variable (hit : Path → Bool)

theorem blank_compose (args : Option (Table Value)) (children : List Node) (path : Path)
    (vs : List Value) :
    blank hit (.mk Node.composeName args children) path (.list vs) =
      .list (blankEach hit children path 0 vs) := by
  rw [blank, if_pos rfl]
  rfl

theorem blank_field {name : String} (args : Option (Table Value)) (children : List Node)
    (path : Path) (w : Value) (compose : name ≠ Node.composeName) :
    blank hit (.mk name args children) path (.single name w) =
      .single name (if hit path then .null else
        w.overObjects (fun path fields => blankFields hit children path 0 fields) path) := by
  have value : ((Value.single name w).fields.get? name).getD .null = w := by
    simp [Value.single, Value.fields, Table.get?]
  rw [blank, if_neg compose, value]
  split <;> rfl

/-- Position by position. -/
theorem blankEach_eq (ns : List Node) (path : Path) (i : Nat) (vs : List Value)
    (length : vs.length = ns.length) :
    blankEach hit ns path i vs =
      List.zipWith (fun c v => blank hit c.2 c.1 v) (Resolution.placedFrom path i ns) vs := by
  induction ns generalizing i vs with
  | nil =>
    rw [List.eq_nil_of_length_eq_zero length]
    rfl
  | cons n rest ih =>
    cases vs with
    | nil => cases length
    | cons v vs =>
      rw [blankEach, Resolution.placedFrom_cons, List.zipWith_cons_cons,
        ih (i + 1) vs (Nat.succ.inj length)]

/-- Field by field: the fields with gaps are those of the results with gaps. -/
theorem blankFields_eq (ns : List Node) (path : Path) (i : Nat) (fields : Table Value)
    (names : fields.keys = ns.map Node.name) (noCompose : ∀ n ∈ ns, n.name ≠ Node.composeName) :
    (blankFields hit ns path i fields).keys = ns.map Node.name ∧
      (blankFields hit ns path i fields).map (fun e => Value.single e.1 e.2) =
        List.zipWith (fun c v => blank hit c.2 c.1 v) (Resolution.placedFrom path i ns)
          (fields.map fun e => .single e.1 e.2) := by
  induction ns generalizing i fields with
  | nil =>
    rw [List.map_eq_nil_iff.1 names]
    exact ⟨rfl, rfl⟩
  | cons n rest ih =>
    cases fields with
    | nil => cases names
    | cons e fields =>
      obtain ⟨name, args, children⟩ := n
      obtain ⟨key, w⟩ := e
      simp only [Table.keys, List.map_cons, List.cons.injEq, Node.name] at names
      obtain ⟨rfl, names⟩ := names
      have compose : key ≠ Node.composeName := noCompose _ List.mem_cons_self
      have own := blank_field hit args children (path ++ [(i : Int)]) w compose
      obtain ⟨keys, values⟩ := ih (i + 1) fields names fun n mem =>
        noCompose n (List.mem_cons_of_mem _ mem)
      rw [blankFields, Resolution.placedFrom_cons, List.map_cons, List.map_cons,
        List.zipWith_cons_cons, ← values, ← keys]
      simp only [own]
      exact ⟨rfl, rfl⟩

/-- Without children nothing can be blanked. -/
theorem overObjects_blankFields_nil (path : Path) (w : Value) :
    w.overObjects (fun path fields => blankFields hit [] path 0 fields) path = w := by
  have same (path : Path) (v : Value) :
      v.onObject (fun fields => blankFields hit [] path 0 fields) = v := by
    cases v <;> simp [Value.onObject, blankFields]
  cases w with
  | list items =>
    rw [Value.overObjects]
    simp only [same]
    rw [List.mapIdx_eq_zipIdx_map]
    exact congrArg Value.list (List.zipIdx_map_fst 0 items)
  | object fields => exact same path (.object fields)
  | _ => rfl

end

/-! ## Outages -/

/-- **`Outage`** — a change of one field: on some inputs its resolver fails. -/
structure Outage where
  owner : String
  field : String
  struck : Table Value → Value → Bool
  failure : Table Value → Value → Failure

namespace Outage

variable (o : Outage)

/-- Whether a call is struck. -/
def strikes (c : Call) : Bool := c.owner = o.owner && c.field = o.field && o.struck c.args c.data

/-- What resolvers come to under an outage. -/
def answers (before : Answers) : Answers := fun owner field args data =>
  if owner = o.owner && field = o.field && o.struck args data then .error (o.failure args data)
  else before owner field args data

/-- The entry of the failure log for a struck call. -/
def report (c : Call) : FailedCall := ⟨c.path, c.field, (o.failure c.args c.data).report⟩

variable (calls : List Call)

/-- Whether one of the calls at a position is struck. -/
def hits (p : Path) : Bool := calls.any fun c => o.strikes c && decide (c.path = p)

/-- Whether one of the calls strictly above a position is struck. -/
def covers (p : Path) : Bool := calls.any fun c => o.strikes c && decide (c.path.Above p)

/-- **The failures under an outage**: those of a history that are not below a struck call, and one for
each struck call that is not below another. -/
def log (history : List Journal.Event) : List FailedCall :=
  ((Journal.failures history).filter fun f => !o.covers calls f.path)
    ++ ((Journal.startedIn history).filter fun c => o.strikes c && !o.covers calls c.path).map o.report

end Outage

end CallTree
