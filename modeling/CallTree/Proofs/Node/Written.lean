/-
# CallTree.Proofs.Node.Written — the written form of a call is read as that call.

What is read is an entry with its call (`Node.readChild_eq_ok_iff`), and the written form of the call is
an entry with the same call (`Node.entry_written`): so reading is a left inverse of writing on all calls
that are read from anything. The written form is a bare name if and only if the call is a plain leaf, and
then it is a child but no call tree.
-/
import CallTree.Proofs.Node.Grammar
import CallTree.Proofs.Node.Reader

namespace CallTree.Node

/-- Whether a call is a name and nothing else: it has neither arguments nor children, and is no
operator. -/
def isPlain (n : Node) : Bool := n.args.isNone && n.children.isEmpty && !n.isMeta

/-- What makes a call more than a name. -/
theorem isPlain_eq_false_iff {n : Node} :
    n.isPlain = false ↔ n.args.isSome = true ∨ n.children ≠ [] ∨ n.isMeta = true := by
  simp only [isPlain, Bool.and_eq_false_iff, Option.isNone_eq_false_iff, List.isEmpty_eq_false_iff,
    Bool.not_eq_false', or_assoc]

/-- The operators are a composition and a conditional block. -/
theorem isMeta_mk {name : String} {args : Option (Table Value)} {ns : List Node} :
    (Node.mk name args ns).isMeta = true ↔ name = composeName ∨ name = whenName := by
  show (decide (name = composeName) || decide (name = whenName)) = true ↔ _
  simp

/-- **A plain call is written as its name.** -/
theorem written_of_plain {n : Node} (plain : n.isPlain = true) : n.written = .text n.name := by
  obtain ⟨name, args, ns⟩ := n
  simp only [isPlain, Bool.and_eq_true, Bool.not_eq_true', Option.isNone_iff_eq_none,
    List.isEmpty_iff] at plain
  obtain ⟨⟨noArgs, noChildren⟩, noMeta⟩ := plain
  obtain rfl : args = none := noArgs
  obtain rfl : ns = [] := noChildren
  have ordinary : ¬ (name = composeName ∨ name = whenName) := by
    rw [← isMeta_mk, noMeta]
    exact Bool.false_ne_true
  simp only [written, Node.name, Bool.or_eq_true, decide_eq_true_eq, if_neg ordinary]

/-- Any other call is written as a list. -/
theorem written_of_not_plain {n : Node} (plain : n.isPlain = false) :
    n.written.items?.isSome = true := by
  obtain ⟨name, args, ns⟩ := n
  cases args with
  | some args => rfl
  | none =>
    cases ns with
    | cons _ _ => rfl
    | nil =>
      have operator : name = composeName ∨ name = whenName := by
        rw [← isMeta_mk]
        simpa [isPlain, Node.args, Node.children] using plain
      simp only [written, Bool.or_eq_true, decide_eq_true_eq, if_pos operator]
      rfl

/-- An entry is written as a call may be. -/
theorem Entry.isWritten {v : Value} {n : Node} (entry : Entry v n) : isWritten v = true := by
  have listed {xs : List Value} (items : v.items? = some xs) : Node.isWritten v = true := by
    cases v with
    | list _ => rfl
    | tuple _ => rfl
    | _ => cases items
  cases entry with
  | name _ _ => rfl
  | call items _ _ _ => exact listed items
  | callWith items _ _ _ => exact listed items

/-- A leaf is written as an entry: by its name, or, if it is a composition of nothing, in a list. -/
theorem entry_leaf {name : String} (named : name ≠ "") (noWhen : name ≠ whenName) :
    Entry (leaf name).written (leaf name) := by
  by_cases isCompose : name = composeName
  · have listed : (leaf name).written = .list [.text name] := by simp [written, leaf, isCompose]
    rw [listed]
    exact .call rfl named noWhen .nil
  · have bare : (leaf name).written = .text name := by
      simp [written, leaf, isCompose, noWhen]
    rw [bare]
    exact .name named noWhen

mutual

/-- **The written form of an entry's call** is an entry with that call. -/
theorem entry_written {v : Value} {n : Node} : Entry v n → Entry n.written n
  | .name named noWhen => entry_leaf named noWhen
  | .call _ named noWhen .nil => entry_leaf named noWhen
  | .call _ named noWhen (.cons first others) =>
    .call rfl named noWhen (entries_written (.cons first others))
  | .callWith _ named noCompose below => .callWith rfl named noCompose (entries_written below)

/-- So it is for entries. -/
theorem entries_written {vs : List Value} {ns : List Node} :
    List.Forall₂ Entry vs ns → List.Forall₂ Entry (writtenAll ns) ns
  | .nil => .nil
  | .cons first others => .cons (entry_written first) (entries_written others)

end

end CallTree.Node
