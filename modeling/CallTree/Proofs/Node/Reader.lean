/-
# CallTree.Proofs.Node.Reader — a written composition is read call by call.

A child of a written call is read as it is read by itself, except that a bare name needs a list around it
there (`Node.wrapped`). So a written composition is a call tree if and only if each of its calls is one
(`Node.read_composed_eq_ok_iff`).
-/
import Mathlib.Data.List.Forall2
import CallTree.Node.Reader
import CallTree.Proofs.Except

namespace CallTree.Node

/-- Whether a value is written as a call may be: a bare name, or a list. -/
def isWritten : Value → Bool
  | .text _ => true
  | .list _ => true
  | .tuple _ => true
  | _ => false

/-- A written call as a call tree of its own: a bare name is put in a list. -/
def wrapped : Value → Value
  | .text s => .list [.text s]
  | v => v

/-- **A written composition.** -/
def composed (cs : List Value) : Value := .list (.text composeName :: cs)

/-- A child is read as it is read by itself. -/
theorem readChild_eq {c : Value} (written : isWritten c = true) : readChild c = read (wrapped c) := by
  cases c with
  | list xs => rfl
  | tuple xs => rfl
  | text s =>
    rw [readChild, wrapped, read, readItems, readName]
    by_cases empty : s = ""
    · rw [if_pos empty, if_pos empty]
    · rw [if_neg empty, if_neg empty]
      by_cases isWhen : s = whenName
      · simp [isWhen, checkHead]
      · simp [isWhen, checkHead, readChildren, leaf, Except.map]
  | _ => cases written

/-- Children are read one by one. -/
theorem readChildren_eq_ok_iff {cs : List Value} (written : ∀ c ∈ cs, isWritten c = true)
    {ns : List Node} : readChildren cs = .ok ns ↔
      List.Forall₂ (fun c n => read (wrapped c) = .ok n) cs ns := by
  induction cs generalizing ns with
  | nil =>
    rw [readChildren, List.forall₂_nil_left_iff]
    exact ⟨fun h => (Except.ok.inj h).symm, fun h => by rw [h]⟩
  | cons c rest ih =>
    obtain ⟨first, others⟩ := List.forall_mem_cons.1 written
    rw [readChildren, readChild_eq first, List.forall₂_cons_left_iff]
    cases read (wrapped c) with
    | error f => simp
    | ok n =>
      simp only [map_eq_ok_iff, ih others]
      constructor
      · rintro ⟨ns', each, rfl⟩
        exact ⟨n, ns', rfl, each, rfl⟩
      · rintro ⟨n', ns', same, each, rfl⟩
        exact ⟨ns', each, by rw [Except.ok.inj same]⟩

/-- What is wrong with children is wrong with one of them. -/
theorem readChildren_error {cs : List Value} (written : ∀ c ∈ cs, isWritten c = true) {f : ShapeFault}
    (h : readChildren cs = .error f) : ∃ c ∈ cs, read (wrapped c) = .error f := by
  induction cs with
  | nil => cases h
  | cons c rest ih =>
    obtain ⟨first, others⟩ := List.forall_mem_cons.1 written
    rw [readChildren, readChild_eq first] at h
    cases own : read (wrapped c) with
    | error e =>
      rw [own] at h
      cases h
      exact ⟨c, List.mem_cons_self, own⟩
    | ok n =>
      rw [own] at h
      obtain ⟨c', mem, wrong⟩ := ih others (error_of_map h)
      exact ⟨c', List.mem_cons_of_mem _ mem, wrong⟩

/-- A written composition is read as its calls are. -/
theorem read_composed {cs : List Value} (written : ∀ c ∈ cs, isWritten c = true) :
    read (composed cs) = (readChildren cs).map (.mk composeName none) := by
  cases cs with
  | nil => rfl
  | cons c rest =>
    have first := written c List.mem_cons_self
    cases c with
    | text _ => rfl
    | list _ => rfl
    | tuple _ => rfl
    | _ => cases first

/-- **A composition is read call by call.** -/
theorem read_composed_eq_ok_iff {cs : List Value} (written : ∀ c ∈ cs, isWritten c = true) {n : Node} :
    read (composed cs) = .ok n ↔
      ∃ ns, n = .mk composeName none ns ∧ List.Forall₂ (fun c n => read (wrapped c) = .ok n) cs ns := by
  rw [read_composed written, map_eq_ok_iff]
  simp only [readChildren_eq_ok_iff written]
  constructor
  · rintro ⟨ns, each, rfl⟩
    exact ⟨ns, rfl, each⟩
  · rintro ⟨ns, rfl, each⟩
    exact ⟨ns, each, rfl⟩

end CallTree.Node
