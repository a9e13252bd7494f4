/-
# CallTree.Value.Compare — equality and order of values.

Two equalities, deliberately different.

* `same`, the loose one: numbers are compared by exact value, and a boolean counts as the number
  zero or one. It applies inside lists, tuples and objects.
* `strictlySame`, the one that conditions use at the top: the kinds have to agree, or both have to
  be numbers.

Order exists between numbers (booleans count again), texts (by code points), octet strings, and two
lists or two tuples, where the first difference decides. `ordered?` says nothing of anything else: a
date is known by its text only, and dates are asked for equality, not for which comes first.

What is no number is equal to nothing and ordered against nothing, and neither is a thing of the
host.
-/
import CallTree.Value

namespace CallTree.Value

/-- The place of a number on the number line; booleans are zero and one. -/
def point? : Value → Option Binary64.Point
  | .bool b => some (Binary64.intPoint (if b then 1 else 0))
  | .int n => some (Binary64.intPoint n)
  | .float x => x.point?
  | _ => none

/-- Whether two values are the same place on the number line. -/
def samePoint (a b : Value) : Bool :=
  match a.point?, b.point? with
  | some p, some q => p = q
  | _, _ => false

mutual

/-- **Loose equality.** -/
def same : Value → Value → Bool
  | .null, .null => true
  | .text s, .text t => s = t
  | .octets a, .octets b => a = b
  | .list xs, .list ys => sameItems xs ys
  | .tuple xs, .tuple ys => sameItems xs ys
  | .object fs, .object gs => fs.length = gs.length && sameFields fs gs
  | .date s a, .date t b => s = t && a = b
  | .pattern p, .pattern q => p = q
  | a, b => samePoint a b

/-- Loose equality, item by item. -/
def sameItems : List Value → List Value → Bool
  | [], [] => true
  | a :: as, b :: bs => same a b && sameItems as bs
  | _, _ => false

/-- Whether every field has a loosely equal one under its key in a table. -/
def sameFields : List (String × Value) → List (String × Value) → Bool
  | [], _ => true
  | (k, v) :: rest, gs =>
    (match Table.get? gs k with
      | some w => same v w
      | none => false) && sameFields rest gs

end

/-- **Strict equality**: of one kind, or both numbers, and loosely equal. -/
def strictlySame (a b : Value) : Bool :=
  if a.isNumber && b.isNumber then samePoint a b
  else a.kind = b.kind && same a b

/-- Which of the four orders is asked for. -/
inductive Order where
  | less
  | lessOrSame
  | greater
  | greaterOrSame
  deriving DecidableEq, Repr

namespace Order

/-- Whether an order holds, given whether the two are the same and whether the first is less. -/
def decide (o : Order) (same less : Bool) : Bool :=
  match o with
  | .less => less
  | .lessOrSame => same || less
  | .greater => !same && !less
  | .greaterOrSame => !less

end Order

/-- The order of two lists by their first difference; the shorter of two that agree is less. -/
def lexicographic {α : Type} [DecidableEq α] (less : α → α → Bool) (o : Order) :
    List α → List α → Bool
  | [], [] => o.decide true false
  | [], _ :: _ => o.decide false true
  | _ :: _, [] => o.decide false false
  | a :: as, b :: bs => if a = b then lexicographic less o as bs else o.decide false (less a b)

mutual

/-- **Order** of two values, if they can be ordered. -/
def ordered? (o : Order) : Value → Value → Option Bool
  | .text s, .text t => some (lexicographic (fun a b => decide (a < b)) o s.toList t.toList)
  | .octets a, .octets b => some (lexicographic (fun x y => decide (x < y)) o a b)
  | .list xs, .list ys => orderedItems? o xs ys
  | .tuple xs, .tuple ys => orderedItems? o xs ys
  | a, b =>
    match kind a, kind b with
    | .bool, .bool | .bool, .int | .bool, .float
    | .int, .bool | .int, .int | .int, .float
    | .float, .bool | .float, .int | .float, .float =>
      match a.point?, b.point? with
      | some p, some q => some (o.decide (p = q) (p.lt q))
      | _, _ => some false
    | _, _ => none

/-- Order by the first items that are not loosely equal. -/
def orderedItems? (o : Order) : List Value → List Value → Option Bool
  | [], [] => some (o.decide true false)
  | [], _ :: _ => some (o.decide false true)
  | _ :: _, [] => some (o.decide false false)
  | a :: as, b :: bs => if same a b then orderedItems? o as bs else ordered? o a b

end

/-- Whether a list occurs in another as a run. -/
def occursIn {α : Type} [DecidableEq α] (part : List α) : List α → Bool
  | [] => part.isEmpty
  | a :: rest => part.isPrefixOf (a :: rest) || occursIn part rest

/-- Why a value cannot be asked whether it contains another. -/
inductive ContainsFault where
  /-- An octet string holds octets, and the number asked for is none. -/
  | noOctet
  deriving DecidableEq, Repr

/-- Whether a value contains another: a text in a text, a key of an object, an item of a list or
tuple by loose equality, an octet or a run of octets in an octet string. Everything else contains
nothing. -/
def contains (container item : Value) : Except ContainsFault Bool :=
  match container, item with
  | .text s, .text t => .ok (occursIn t.toList s.toList)
  | .list xs, v => .ok (xs.any fun x => same x v)
  | .tuple xs, v => .ok (xs.any fun x => same x v)
  | .object fs, .text k => .ok (Table.has fs k)
  | .octets bs, .octets part => .ok (occursIn part bs)
  | .octets bs, .int n =>
    if 0 ≤ n ∧ n < 256 then .ok (bs.contains (UInt8.ofNat n.toNat)) else .error .noOctet
  | .octets bs, .bool b => .ok (bs.contains (if b then 1 else 0))
  | _, _ => .ok false

end CallTree.Value
