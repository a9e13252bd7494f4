/-
# CallTree.Proofs.Registry.WellFormed — everything in a registry is in order.

Calls on a draft may be given anything. Whatever they are given, and whether they fail or not, the
types and the fields of the draft are in order afterwards (`Registry.WellFormed`), and so are those of
every registry that is built from it (`Registry.wellFormed_additions`). The exception are fields that
are ready-made, which nobody looks at.
-/
import CallTree.Example.People
import CallTree.Node
import CallTree.Proofs.Except
import CallTree.Proofs.Registry

namespace CallTree

namespace Registry

/-- **A name that a field may have.** It is not that of an operator. -/
structure FieldName (name : String) : Prop where
  nonempty : name ≠ ""
  plain : ∀ rest, name ≠ "::" ++ rest
  notCompose : name ≠ Node.composeName
  notWhen : name ≠ Node.whenName

/-- **A field in order** under its name. Its resolver is one that was supplied for it. -/
structure FieldProper (supplied : Resolver → Prop) (name : String) (f : Field) : Prop where
  named : FieldName name
  same : f.name = name
  resolver : supplied f.resolve
  type : f.type.Proper
  expect : ∀ arg d, (arg, d) ∈ f.expect → d.Proper ∧ d.isNative = true

/-- **Tables in order**: the names of the types, their fields, and the queries. -/
structure WellFormed (supplied : Resolver → Prop) (types : Table Chunk) (root : Chunk) : Prop where
  named : ∀ name chunk, (name, chunk) ∈ types → Draft.TypeName name
  fields : ∀ owner chunk, (owner, chunk) ∈ types → ∀ name f, (name, f) ∈ chunk →
    FieldProper supplied name f
  queries : ∀ name f, (name, f) ∈ root → FieldProper supplied name f

namespace Draft

/-! ## Fields that are read -/

theorem readFieldName_eq_ok_iff {v : Value} {name : String} :
    readFieldName v = .ok name ↔ v = .text name ∧ FieldName name := by
  constructor
  · intro reads
    unfold readFieldName at reads
    split at reads
    · rename_i s
      split at reads
      · cases reads
      · rename_i neither
        rw [Bool.or_eq_true, decide_eq_true_eq, not_or] at neither
        obtain ⟨nonempty, plain⟩ := neither
        cases reads
        have operator (rest : String) (same : name = "::" ++ rest) : False := by
          refine plain ?_
          rw [isOperatorName, same, String.toList_append, decide_eq_true_eq]
          rfl
        exact ⟨rfl, nonempty, operator, operator "compose", operator "when"⟩
    · cases reads
  · rintro ⟨rfl, named⟩
    have plain : isOperatorName name = false := by
      rw [isOperatorName, decide_eq_false_iff_not]
      intro marks
      apply named.plain (String.ofList (name.toList.drop 2))
      apply String.toList_inj.1
      have mark : "::".toList = [':', ':'] := rfl
      rw [String.toList_append, mark, String.toList_ofList, ← marks, List.take_append_drop]
    simp [readFieldName, named.nonempty, plain]

/-- A contract that is read has native types only. -/
theorem proper_of_readContract {owner field : String} {fs : Table Value} {contract : Contract}
    (reads : readContract owner field fs = .ok contract) {arg : String} {d : Descriptor}
    (mem : (arg, d) ∈ contract) : d.Proper ∧ d.isNative = true := by
  rw [readContract_eq] at reads
  obtain ⟨token, -, -, read⟩ := (Table.readEach_eq_ok_iff.1 reads).exists_of_mem_right mem
  obtain ⟨denotes, native⟩ := readArgument_eq_ok_iff.1 read
  exact ⟨denotes.proper, native⟩

theorem proper_of_readExpect {owner field : String} {expect : Value} {contract : Contract}
    (reads : readExpect owner field expect = .ok contract) {arg : String} {d : Descriptor}
    (mem : (arg, d) ∈ contract) : d.Proper ∧ d.isNative = true := by
  unfold readExpect at reads
  split at reads
  · cases reads
    cases mem
  · exact proper_of_readContract reads mem
  · cases reads

/-- **A field that is read is in order**, and has the resolver of its definition. -/
theorem proper_of_readField {owner : String} {name : String} {definition : Definition} {f : Field}
    {supplied : Resolver → Prop} (reads : readField owner (.text name) definition = .ok f)
    (supplies : ∀ resolve, definition.resolve = some resolve → supplied resolve) :
    FieldProper supplied name f := by
  have read := readField_eq_ok_iff.1 reads
  exact ⟨(readFieldName_eq_ok_iff.1 read.named).2, read.name_eq, supplies _ read.resolves,
    read.denotes.proper, fun _ _ => proper_of_readExpect read.expects⟩

/-! ## Steps and runs -/

variable {supplied : Resolver → Prop}

/-- **Step.** Tables in order stay so, if the fields that may be written are in order. -/
theorem WellFormed.change {allowed : String → Field → Prop}
    (sets : ∀ name f, allowed name f → FieldProper supplied name f) {d d' : Draft}
    (change : Change allowed d d') (proper : WellFormed supplied d.types d.root) :
    WellFormed supplied d'.types d'.root := by
  cases change with
  | @declare name named =>
    unfold Draft.declare
    split
    · exact proper
    · refine ⟨fun owner chunk mem => ?_, fun owner chunk mem => ?_, proper.queries⟩
      · rcases Table.mem_set mem with same | old
        · cases same
          exact named
        · exact proper.named owner chunk old
      · rcases Table.mem_set mem with same | old
        · cases same
          exact nofun
        · exact proper.fields owner chunk old
  | @write owner name f known allowed =>
    have written {chunk : Chunk} (before : ∀ name f, (name, f) ∈ chunk → FieldProper supplied name f)
        (name' : String) (f' : Field) (mem : (name', f') ∈ chunk.set name f) :
        FieldProper supplied name' f' := by
      rcases Table.mem_set mem with same | old
      · cases same
        exact sets name f allowed
      · exact before name' f' old
    unfold Draft.setField
    split
    · exact ⟨proper.named, proper.fields, written proper.queries⟩
    · rename_i other
      -- The owner is declared, so its name is in order and so are the fields that it has.
      obtain ⟨chunk, found⟩ := Option.isSome_iff_exists.1 (known.resolve_left other)
      have old := Table.mem_of_get? found
      have current : d.chunk owner = chunk := by rw [Draft.chunk, if_neg other, found]; rfl
      rw [current]
      refine ⟨fun owner' chunk' mem => ?_, fun owner' chunk' mem => ?_, proper.queries⟩
      · rcases Table.mem_set mem with same | before
        · cases same
          exact proper.named owner chunk old
        · exact proper.named owner' chunk' before
      · rcases Table.mem_set mem with same | before
        · cases same
          exact written (proper.fields owner chunk old)
        · exact proper.fields owner' chunk' before

/-- A resolver that one of some calls gives with a definition. -/
def Supplied (additions : List Addition) (resolve : Resolver) : Prop :=
  ∃ a ∈ additions, ∃ definition, a.definition? = some definition ∧ definition.resolve = some resolve

/-- **Run.** After any calls that give no field ready-made, the tables of a draft are in order. -/
theorem wellFormed_after {additions : List Addition} (raw : ∀ a ∈ additions, a.IsRaw) :
    WellFormed (Supplied additions) (after additions).types (after additions).root := by
  refine holds_after (P := fun d => WellFormed (Supplied additions) d.types d.root)
    ⟨nofun, nofun, nofun⟩ fun d d' => WellFormed.change ?_
  rintro name f ⟨a, mem, sets⟩
  cases sets with
  | read given reads =>
    exact proper_of_readField reads fun resolve supplies => ⟨a, mem, _, given, supplies⟩
  | ready given =>
    subst given
    exact (raw _ mem).elim

end Draft

open Draft in
/-- **Well-formedness.** After any calls on a draft, whatever they are given and whether they fail or
not, as long as they give no field ready-made: the tables of the draft are in order, and so are those
of every registry that is built on the way, with its references checked or not. -/
theorem wellFormed_additions {additions : List Addition} (raw : ∀ a ∈ additions, a.IsRaw) :
    WellFormed (Supplied additions) (after additions).types (after additions).root ∧
      ∀ before, before <+: additions → ∀ check r, (after before).build check = .ok r →
        WellFormed (Supplied before) r.types r.root := by
  refine ⟨wellFormed_after raw, ?_⟩
  intro before front check r built
  obtain ⟨types, root, -⟩ := build_eq_ok built
  rw [types, root]
  exact wellFormed_after fun a mem => raw a (front.subset mem)

/-- Some calls on a draft. The second is refused, and so are the fourth and the fifth, of which the
fourth declares a type before it is. -/
def pets : List Draft.Addition := [
  .type (.text "Person"),
  .type (.text "String!"),
  .field (.text "Pet") (.text "name") { type := .text "String!", resolve := some (Example.required "name") },
  .field (.text "Cat") (.text "::when") { type := .text "Pet", resolve := some (Example.required "cat") },
  .field (.text "Pet") (.text "owner") { type := .text "Person", resolve := none },
  .query (.text "pets")
    { type := .list [.text "Pet!"], resolve := some (Example.required "pets")
      expect := .object [("owner", .text "String")] }]

theorem wellFormed_pets : ∃ r, (Draft.after pets).build true = .ok r ∧
    r.types.keys = ["Person", "Pet", "Cat"] ∧ WellFormed (Draft.Supplied pets) r.types r.root := by
  have raw : ∀ a ∈ pets, a.IsRaw := by simp [pets, Draft.Addition.IsRaw]
  have built : (Draft.after pets).build true = .ok ⟨(Draft.after pets).types, (Draft.after pets).root⟩ :=
    rfl
  exact ⟨_, built, rfl, (wellFormed_additions raw).2 pets (List.prefix_refl _) true _ built⟩

end Registry

end CallTree
