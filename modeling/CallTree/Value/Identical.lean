/-
# CallTree.Value.Identical — values as they are.

Whether two values are the same in every respect can be decided (`Value.identical_iff`). That is finer than the
two equalities of `CallTree.Value.Compare`: a number that is no number is itself, an integer is no floating-point
number, and tables are compared in their order.
-/
import CallTree.Value

namespace CallTree.Value

mutual

/-- Whether two values are the same in every respect. -/
def identical : Value → Value → Bool
  | .null, .null => true
  | .bool a, .bool b => a = b
  | .int m, .int n => m = n
  | .float x, .float y => x = y
  | .text s, .text t => s = t
  | .octets a, .octets b => a = b
  | .list vs, .list ws => identicalItems vs ws
  | .tuple vs, .tuple ws => identicalItems vs ws
  | .object fs, .object gs => identicalFields fs gs
  | .date s a, .date t b => s = t && a = b
  | .pattern p, .pattern q => p = q
  | .foreign s fs, .foreign t gs => s = t && identicalFields fs gs
  | _, _ => false

/-- Whether two lists have the same items. -/
def identicalItems : List Value → List Value → Bool
  | [], [] => true
  | v :: vs, w :: ws => identical v w && identicalItems vs ws
  | _, _ => false

/-- Whether two tables have the same entries, in the same order. -/
def identicalFields : List (String × Value) → List (String × Value) → Bool
  | [], [] => true
  | (k, v) :: fs, (l, w) :: gs => k = l && identical v w && identicalFields fs gs
  | _, _ => false

end

mutual

theorem identical_iff : ∀ v w : Value, identical v w = true ↔ v = w
  | .list vs, w => by cases w <;> simp [identical, identicalItems_iff vs]
  | .tuple vs, w => by cases w <;> simp [identical, identicalItems_iff vs]
  | .object fs, w => by cases w <;> simp [identical, identicalFields_iff fs]
  | .foreign s fs, w => by cases w <;> simp [identical, identicalFields_iff fs]
  | .null, w | .bool _, w | .int _, w | .float _, w | .text _, w | .octets _, w | .date _ _, w | .pattern _, w => by
    cases w <;> simp [identical]

theorem identicalItems_iff : ∀ vs ws : List Value, identicalItems vs ws = true ↔ vs = ws
  | [], ws => by cases ws <;> simp [identicalItems]
  | v :: vs, ws => by cases ws <;> simp [identicalItems, identical_iff v, identicalItems_iff vs]

theorem identicalFields_iff : ∀ fs gs : List (String × Value), identicalFields fs gs = true ↔ fs = gs
  | [], gs => by cases gs <;> simp [identicalFields]
  | (k, v) :: fs, gs => by
    cases gs <;> simp [identicalFields, identical_iff v, identicalFields_iff fs, Prod.ext_iff]

end

instance : DecidableEq Value := fun v w => decidable_of_iff _ (identical_iff v w)

end CallTree.Value
