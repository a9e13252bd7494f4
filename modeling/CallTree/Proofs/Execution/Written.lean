/-
# CallTree.Proofs.Execution.Written — a call tree and its canonical form.

The written form of a call is the canonical form of all values that are read as this call: it is read as
the same call again, and is the same for two values if and only if their calls are the same. A request is
executed by the call that it asks for, so it does not matter in which form the call came
(`Execution.written_canonical`).
-/
import CallTree.Example.People
import CallTree.Execution
import CallTree.Proofs.Node.Written

namespace CallTree

/-- **Alike requests** ask for the same call, with the same part of the transport and the same limit. -/
structure Request.Alike (q q' : Request) : Prop where
  read : q.source.read = q'.source.read
  inbound : q.inbound = q'.inbound
  limit : q.limit = q'.limit

namespace Execution

section

variable {α β γ : Type} (F : {n : Nat} → Vector α n → (Fin n → β) → γ)

/-- What is made of a vector and a family is made of their elements. -/
theorem congr_of_elements {n m : Nat} (same : n = m) {R : Vector α n} {R' : Vector α m}
    (f : Fin n → β) (f' : Fin m → β) (elements : ∀ i (h : i < n) (h' : i < m), R[i] = R'[i])
    (members : ∀ i (h : i < n) (h' : i < m), f ⟨i, h⟩ = f' ⟨i, h'⟩) : F R f = F R' f' := by
  subst same
  have vectors : R = R' := Vector.ext fun i h => elements i h h
  have families : f = f' := funext fun i => members i i.2 i.2
  rw [vectors, families]

end

variable {r : Registry} {qs qs' : List Request} (alike : List.Forall₂ Request.Alike qs qs')

include alike

/-- Alike requests start in the same way. -/
theorem roots_alike (i : Nat) (h : i < qs.length) (h' : i < qs'.length) :
    (roots r qs)[i] = (roots r qs')[i] := by
  obtain ⟨read, inbound, limit⟩ := alike.get h h'
  simp only [List.get_eq_getElem] at read inbound limit
  simp [roots, Request.task, Request.journal, read, inbound, limit]

/-- Alike requests that are executed together get the same responses. -/
theorem together_alike : together r qs = together r qs' := by
  apply congr_of_elements (fun {n} R (f : Fin n → Lane Journal Abort Value → Option Response) =>
    (List.finRange n).map fun i => f i (Machine.start R).run.lanes[i]) alike.length_eq
    (fun i => qs[i].respond) (fun i => qs'[i].respond) (roots_alike alike)
  intro i h h'
  funext l
  have limit := (alike.get h h').limit
  simp only [List.get_eq_getElem] at limit
  simp [Request.respond, limit]

/-- So do alike requests that are executed one after the other. -/
theorem inTurn_alike : inTurn r qs = inTurn r qs' := by
  apply congr_of_elements (fun {n} R (f : Fin n → Lane Journal Abort Value → Option Response) =>
    (List.finRange n).map fun i => f i ((Machine.idle R).serve (List.finRange n)).lanes[i])
    alike.length_eq (fun _ l => l.answer.map fun a => Request.response a.outcome a.state)
    (fun _ l => l.answer.map fun a => Request.response a.outcome a.state) (roots_alike alike)
  intros
  rfl

omit alike

/-- Alike requests may stand in for each other among any others. -/
theorem stand_in {q q' : Request} (same : q.Alike q') (r : Registry) (before after : List Request) :
    together r (before ++ q :: after) = together r (before ++ q' :: after) ∧
    inTurn r (before ++ q :: after) = inTurn r (before ++ q' :: after) := by
  have itself (qs : List Request) : List.Forall₂ Request.Alike qs qs :=
    List.forall₂_same.2 fun _ _ => ⟨rfl, rfl, rfl⟩
  have all : List.Forall₂ Request.Alike (before ++ q :: after) (before ++ q' :: after) :=
    List.rel_append (itself before) (.cons same (itself after))
  exact ⟨together_alike all, inTurn_alike all⟩

/-- **Canonical form.** Let a call be read from any value, as a call tree or as a child of one. Its
written form is read as the same child, and so is a canonical form: written again it is the same, and two
values are read as the same call if and only if their calls have the same written form. As a call tree the
written form is read if and only if the call has arguments or children or is an operator; otherwise it is
the bare name, and no list. Whoever asks with a call tree gets what he gets with its canonical form in a
list, in whatever company. -/
theorem written_canonical {n : Node}
    (accepted : (∃ v, Node.read v = .ok n) ∨ ∃ v, Node.readChild v = .ok n) :
    Node.readChild n.written = .ok n ∧
    (Node.readChild n.written).map Node.written = .ok n.written ∧
    (∀ v n', Node.readChild v = .ok n' → (n' = n ↔ n'.written = n.written)) ∧
    (Node.read n.written = .ok n ↔ n.args.isSome = true ∨ n.children ≠ [] ∨ n.isMeta = true) ∧
    (¬ (n.args.isSome = true ∨ n.children ≠ [] ∨ n.isMeta = true) →
      n.written = .text n.name ∧ Node.read n.written = .error (.noList (.text n.name))) ∧
    ∀ v, Node.read v = .ok n → ∀ (r : Registry) (inbound limit : Value)
      (before after : List Request),
      together r (before ++ ⟨.tree v, inbound, limit⟩ :: after) =
        together r (before ++ ⟨.tree (Node.wrapped n.written), inbound, limit⟩ :: after) ∧
      inTurn r (before ++ ⟨.tree v, inbound, limit⟩ :: after) =
        inTurn r (before ++ ⟨.tree (Node.wrapped n.written), inbound, limit⟩ :: after) := by
  have entry : Node.Entry n.written n := by
    obtain ⟨v, h⟩ | ⟨v, h⟩ := accepted
    · exact Node.entry_written (Node.read_eq_ok_iff.1 h).2
    · exact Node.entry_written (Node.readChild_eq_ok_iff.1 h)
  have back : Node.readChild n.written = .ok n := Node.readChild_eq_ok_iff.2 entry
  refine ⟨back, by rw [back]; rfl, ?_, ?_, ?_, ?_⟩
  · intro v n' h
    constructor
    · rintro rfl
      rfl
    · intro same
      -- Both are what the common written form is read as.
      have back' := Node.readChild_eq_ok_iff.2 (Node.entry_written (Node.readChild_eq_ok_iff.1 h))
      rw [same, back] at back'
      exact (Except.ok.inj back').symm
  · rw [← Node.isPlain_eq_false_iff, Node.read_eq_ok_iff]
    constructor
    · rintro ⟨items, -⟩
      rw [← Bool.not_eq_true]
      intro plain
      rw [Node.written_of_plain plain] at items
      cases items
    · intro plain
      exact ⟨Node.written_of_not_plain plain, entry⟩
  · rw [← Node.isPlain_eq_false_iff, Bool.not_eq_false]
    intro plain
    rw [Node.written_of_plain plain]
    exact ⟨rfl, rfl⟩
  · intro v h r inbound limit before after
    have wrapped := Node.readChild_eq entry.isWritten
    apply stand_in
    refine ⟨?_, rfl, rfl⟩
    show Node.read v = Node.read (Node.wrapped n.written)
    rw [h, ← wrapped, back]

/-- The names of the viewer's friends, with lists around the bare names. -/
def nestedRaw : Value :=
  .list [.text "viewer", .tuple [.text "id"], .list [.text "friends", .list [.text "name"]]]

/-- The call that this is. -/
def nestedNode : Node :=
  .mk "viewer" none [Node.leaf "id", .mk "friends" none [Node.leaf "name"]]

/-- The canonical form does without these lists, and asks for the same. -/
theorem written_canonical_friends : Node.read nestedRaw = .ok nestedNode ∧
    Node.read nestedNode.written = .ok nestedNode ∧
    nestedNode.written = .list [.text "viewer", .text "id", .list [.text "friends", .text "name"]] ∧
    together Example.registry [⟨.tree nestedRaw, .null, .null⟩] =
      together Example.registry [⟨.tree nestedNode.written, .null, .null⟩] := by
  have reads : Node.read nestedRaw = .ok nestedNode := rfl
  obtain ⟨-, -, -, again, -, same⟩ := written_canonical (.inl ⟨nestedRaw, reads⟩)
  exact ⟨reads, again.2 (.inr (.inl (List.cons_ne_nil _ _))), rfl,
    (same nestedRaw reads Example.registry .null .null [] []).1⟩

end Execution

end CallTree
