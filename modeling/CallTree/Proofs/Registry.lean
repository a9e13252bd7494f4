/-
# CallTree.Proofs.Registry — what calls on a draft do to it.

A host builds a registry by a sequence of calls (`Draft.Addition`), of which any may fail. Whatever a
call does, it declares types under names that have been checked and writes fields that it has read or
was given ready-made (`Draft.Change`, `Draft.changes_run`). So a property of drafts that these two
changes keep is a property of every draft that comes about (`Draft.holds_after`). A registry from host
tables comes about in the same way (`Registry.additions_of_tables`).

The first such property: the queries count as a type of a name of their own, and no registry declares a
custom type of that name (`Registry.hasType_of_build`, `Registry.hasType_of_tables`).
-/
import Mathlib.Logic.Relation
import CallTree.Registry.Draft
import CallTree.Proofs.Descriptor
import CallTree.Proofs.Table

namespace CallTree.Registry

namespace Draft

/-! ## Names of types -/

/-- **A name that a custom type may have.** -/
structure TypeName (name : String) : Prop where
  nonempty : name ≠ ""
  notRoot : name ≠ rootName
  notNative : ∀ n : Native, name ≠ n.name ∧ name ≠ n.name.push Descriptor.marker

theorem readTypeName_eq_ok_iff {v : Value} {name : String} :
    readTypeName v = .ok name ↔ v = .text name ∧ TypeName name := by
  constructor
  · intro read
    unfold readTypeName at read
    split at read
    · split at read
      · cases read
      · rename_i nonempty
        split at read
        · cases read
        · rename_i notRoot
          split at read
          · cases read
          · rename_i notNative
            cases read
            exact ⟨rfl, nonempty, notRoot, (Descriptor.isNative_ofName_eq_false_iff _ _).1
              (Bool.eq_false_iff.2 notNative)⟩
    · cases read
  · rintro ⟨rfl, nonempty, notRoot, notNative⟩
    rw [readTypeName, if_neg nonempty, if_neg notRoot,
      (Descriptor.isNative_ofName_eq_false_iff _ _).2 notNative]
    rfl

/-! ## Arguments -/

/-- The type that a token declares for an argument. -/
def readArgument (owner field arg : String) (token : Value) : Except SpecFault Descriptor :=
  if !Descriptor.isToken token then .error (.argumentToken owner field arg token)
  else
    match Descriptor.ofToken token with
    | .error _ => .error (.argumentToken owner field arg token)
    | .ok d => if !d.isNative then .error (.argumentType owner field arg d.name) else .ok d

/-- A contract is read argument by argument. -/
theorem readContract_eq (owner field : String) (tokens : Table Value) :
    readContract owner field tokens = Table.readEach (readArgument owner field) tokens := by
  induction tokens with
  | nil => rfl
  | cons e rest ih =>
    obtain ⟨arg, token⟩ := e
    rw [readContract, Table.readEach, readArgument, ih]
    by_cases valid : (!Descriptor.isToken token) = true
    · simp only [valid, if_true]
    · simp only [if_neg valid]
      cases Descriptor.ofToken token with
      | error _ => rfl
      | ok d => cases native : d.isNative <;> simp [native]

/-- **An argument has a native type**, and a token that denotes it. -/
theorem readArgument_eq_ok_iff {owner field arg : String} {token : Value} {d : Descriptor} :
    readArgument owner field arg token = .ok d ↔ Descriptor.Denotes token d ∧ d.isNative = true := by
  rw [Descriptor.denotes_iff]
  constructor
  · intro reads
    unfold readArgument at reads
    split at reads
    · cases reads
    · rename_i valid
      split at reads
      · cases reads
      · rename_i declares
        split at reads
        · cases reads
        · rename_i native
          cases reads
          simp only [Bool.not_eq_true', Bool.not_eq_false] at valid native
          exact ⟨⟨valid, declares⟩, native⟩
  · rintro ⟨⟨valid, declares⟩, native⟩
    simp [readArgument, valid, declares, native]

/-! ## Fields -/

/-- **What a definition says of a field** that is read from it, under a name. -/
structure FieldRead (owner name : String) (d : Definition) (f : Field) : Prop where
  named : readFieldName (.text name) = .ok name
  name_eq : f.name = name
  denotes : Descriptor.Denotes d.type f.type
  resolves : d.resolve = some f.resolve
  expects : readExpect owner name d.expect = .ok f.expect
  describes : f.description = d.description

theorem readField_eq_ok_iff {owner name : String} {d : Definition} {f : Field} :
    readField owner (.text name) d = .ok f ↔ FieldRead owner name d f := by
  constructor
  · intro reads
    unfold readField at reads
    split at reads
    · cases reads
    · rename_i field named
      have same : name = field := by
        rw [readFieldName] at named
        split at named
        · cases named
        · exact Except.ok.inj named
      subst same
      split at reads
      · cases reads
      · rename_i valid
        simp only [Bool.not_eq_true', Bool.not_eq_false] at valid
        split at reads
        · cases reads
        · cases reads
        · rename_i declares given
          obtain ⟨contract, expected, rfl⟩ := map_eq_ok_iff.1 reads
          exact ⟨named, rfl, Descriptor.denotes_iff.2 ⟨valid, declares⟩, given, expected, rfl⟩
  · -- All that the reader asks for is given, so it gets to the end.
    rintro ⟨named, same, denotes, resolves, expects, describes⟩
    obtain ⟨valid, declares⟩ := Descriptor.denotes_iff.1 denotes
    obtain ⟨name', type, resolve, expect, description⟩ := f
    simp only at same declares resolves expects describes
    subst same describes
    simp [readField, named, valid, declares, resolves, expects, Except.map]

/-! ## Calls -/

/-- **`Addition`** — a call on a draft, with whatever a host gives for it. -/
inductive Addition where
  | type (name : Value)
  | field (owner name : Value) (definition : Definition)
  | query (name : Value) (definition : Definition)
  /-- A field from a host table. -/
  | table (host : Value → Option Resolver) (owner name definition : Value)
  /-- A field that is ready-made and taken as it is. -/
  | ready (owner : Value) (name : String) (f : Field)

namespace Addition

/-- Carry a call out. -/
def run (d : Draft) : Addition → Step
  | .type name => d.addType name
  | .field owner name definition => d.addField owner name definition
  | .query name definition => d.addQuery name definition
  | .table host owner name definition => d.addDefinition host owner name definition
  | .ready owner name f => d.putField owner name f

/-- Whether what a call gives is checked: everything is but a ready-made field. -/
def IsRaw : Addition → Prop
  | .ready _ _ _ => False
  | _ => True

/-- The definition of a field that a call gives, if it does. -/
def definition? : Addition → Option Definition
  | .field _ _ definition => some definition
  | .query _ definition => some definition
  | .table host _ _ (.object fs) =>
    (Table.get? fs "type").map fun type =>
      { type, resolve := host ((Table.get? fs "resolve").getD .null)
        expect := (Table.get? fs "expect").getD .null
        description := (Table.get? fs "description").getD .null }
  | _ => none

/-- **The fields that a call may write**, each under its name. -/
inductive Sets (a : Addition) (name : String) (f : Field) : Prop where
  | read {definition : Definition} {owner : String} (given : a.definition? = some definition)
      (reads : readField owner (.text name) definition = .ok f)
  | ready {owner : Value} (given : a = .ready owner name f)

end Addition

/-- A draft after some calls, whether they fail or not. -/
def addAll (d : Draft) (additions : List Addition) : Draft :=
  additions.foldl (fun d a => (a.run d).2) d

/-- **The draft after some calls**, from the first on. -/
def after (additions : List Addition) : Draft := ({} : Draft).addAll additions

theorem addAll_cons (d : Draft) (a : Addition) (rest : List Addition) :
    d.addAll (a :: rest) = (a.run d).2.addAll rest := rfl

theorem addAll_append (d : Draft) (additions more : List Addition) :
    d.addAll (additions ++ more) = (d.addAll additions).addAll more :=
  List.foldl_append

/-! ## Changes -/

/-- **What changes at a time**: a type is declared under a name that it may have, or a field that is
allowed is written for the queries or a declared type. -/
inductive Change (allowed : String → Field → Prop) : Draft → Draft → Prop where
  | declare {d : Draft} {name : String} (named : TypeName name) :
      Change allowed d (d.declare name)
  | write {d : Draft} {owner name : String} {f : Field}
      (known : owner = rootName ∨ d.types.has owner = true) (sets : allowed name f) :
      Change allowed d (d.setField owner name f)

/-- Several changes, one after the other. -/
abbrev Changes (allowed : String → Field → Prop) : Draft → Draft → Prop :=
  Relation.ReflTransGen (Change allowed)

/-- Where more is allowed, the same changes are. -/
theorem Changes.mono {allowed more : String → Field → Prop} {d d' : Draft} (h : Changes allowed d d')
    (le : ∀ name f, allowed name f → more name f) : Changes more d d' := by
  refine Relation.ReflTransGen.mono (fun _ _ change => ?_) _ _ h
  cases change with
  | declare named => exact .declare named
  | write known sets => exact .write known (le _ _ sets)

variable {allowed : String → Field → Prop}

theorem changes_addType (d : Draft) (name : Value) : Changes allowed d (d.addType name).2 := by
  unfold addType
  split
  · exact .refl
  · rename_i read
    exact .single (.declare (readTypeName_eq_ok_iff.1 read).2)

theorem has_declare (d : Draft) (name : String) : (d.declare name).types.has name = true := by
  unfold declare
  split
  · assumption
  · exact Table.has_set_self ..

/-- The owner of a field may be declared on the way, and is known then. -/
theorem changes_openChunk {d d' : Draft} {owner : Value} {outcome : Except SpecFault String}
    (opened : d.openChunk owner = (outcome, d')) : Changes allowed d d' ∧
      ∀ name, outcome = .ok name → name = rootName ∨ d'.types.has name = true := by
  unfold openChunk at opened
  split at opened
  · cases opened
    exact ⟨.refl, nofun⟩
  · split at opened
    · rename_i name
      split at opened
      · rename_i known
        cases opened
        rw [Bool.or_eq_true, decide_eq_true_eq] at known
        refine ⟨.refl, ?_⟩
        rintro _ ⟨⟩
        exact known
      · split at opened
        · cases opened
          exact ⟨.refl, nofun⟩
        · rename_i read
          obtain ⟨-, named⟩ := readTypeName_eq_ok_iff.1 read
          cases opened
          refine ⟨.single (.declare named), ?_⟩
          rintro _ ⟨⟩
          exact .inr (has_declare d _)
    · cases opened
      exact ⟨.refl, nofun⟩

theorem changes_addField (d : Draft) (owner name : Value) (definition : Definition)
    (reads : ∀ owner name f, readField owner (.text name) definition = .ok f → allowed name f) :
    Changes allowed d (d.addField owner name definition).2 := by
  unfold addField
  -- The owner is opened before the field is looked at, and stays open if the field is refused.
  split
  · rename_i opened
    exact (changes_openChunk opened).1
  · rename_i owner' d' opened
    obtain ⟨changes, known⟩ := @changes_openChunk allowed _ _ _ _ opened
    split
    · exact changes
    · split
      · rename_i field _
        split
        · exact changes
        · split
          · exact changes
          · rename_i f read
            exact changes.tail (.write (known owner' rfl) (reads _ field f read))
      · exact changes

theorem changes_putField (d : Draft) (owner : Value) {name : String} {f : Field}
    (sets : allowed name f) : Changes allowed d (d.putField owner name f).2 := by
  unfold putField
  split
  · rename_i opened
    exact (changes_openChunk opened).1
  · rename_i owner' d' opened
    obtain ⟨changes, known⟩ := @changes_openChunk allowed _ _ _ _ opened
    exact changes.tail (.write (known owner' rfl) sets)

/-- **A call changes a draft** by declaring types and writing fields that it sets. -/
theorem changes_run (d : Draft) (a : Addition) : Changes a.Sets d (a.run d).2 := by
  cases a with
  | type name => exact changes_addType d name
  | field owner name definition =>
    exact changes_addField d owner name definition fun _ _ _ read => .read rfl read
  | query name definition =>
    exact changes_addField d _ name definition fun _ _ _ read => .read rfl read
  | ready owner name f => exact changes_putField d owner (.ready rfl)
  | table host owner name definition =>
    simp only [Addition.run]
    unfold addDefinition
    split
    · rename_i fs
      split
      · exact .refl
      · rename_i type typed
        refine changes_addField d owner name _ fun _ _ _ read => .read ?_ read
        rw [Addition.definition?, typed]
        rfl
    · exact .refl

/-- **Calls change a draft** by declaring types and writing fields that one of them sets. -/
theorem changes_addAll (d : Draft) (additions : List Addition) :
    Changes (fun name f => ∃ a ∈ additions, a.Sets name f) d (d.addAll additions) := by
  induction additions generalizing d with
  | nil => exact .refl
  | cons a rest ih =>
    rw [addAll_cons]
    refine ((changes_run d a).mono fun _ _ sets => ?_).trans ((ih _).mono fun _ _ sets => ?_)
    · exact ⟨a, List.mem_cons_self, sets⟩
    · obtain ⟨b, mem, sets⟩ := sets
      exact ⟨b, List.mem_cons_of_mem _ mem, sets⟩

/-- **A property of drafts** that holds of the empty draft and that the changes keep holds after any
calls. -/
theorem holds_after {additions : List Addition} {P : Draft → Prop} (empty : P {})
    (keeps : ∀ d d', Change (fun name f => ∃ a ∈ additions, a.Sets name f) d d' → P d → P d') :
    P (after additions) := by
  have changes : Changes _ {} (after additions) := changes_addAll {} additions
  generalize after additions = d at changes
  induction changes with
  | refl => exact empty
  | tail _ change ih => exact keeps _ _ change ih

/-! ## Building -/

/-- Building takes the tables as they are. -/
theorem build_eq_ok {d : Draft} {check : Bool} {r : Registry} (built : d.build check = .ok r) :
    r.types = d.types ∧ r.root = d.root ∧
      (check = true → undefinedInAll d.types ((rootName, d.root) :: d.types) = .ok ()) := by
  unfold build at built
  split at built
  · rename_i checks
    cases named : undefinedInAll d.types ((rootName, d.root) :: d.types) with
    | error e =>
      rw [named] at built
      cases built
    | ok _ =>
      rw [named] at built
      cases built
      exact ⟨rfl, rfl, fun _ => rfl⟩
  · rename_i unchecked
    cases built
    exact ⟨rfl, rfl, fun checks => absurd checks unchecked⟩

/-! ## The name of the queries -/

/-- A draft that does not use the name of the queries for a custom type. -/
def Free (d : Draft) : Prop := d.types.has rootName = false

theorem free_after (additions : List Addition) : (after additions).Free := by
  refine holds_after rfl ?_
  intro d d' change free
  cases change with
  | declare named =>
    unfold Draft.declare
    split
    · exact free
    · rw [Free, Table.has_set_of_ne _ _ named.notRoot]
      exact free
  | write _ _ =>
    unfold Draft.setField
    split
    · exact free
    · rename_i other
      rw [Free, Table.has_set_of_ne _ _ other]
      exact free

end Draft

/-- **A registry that is built declares no type under the name of the queries.** -/
theorem hasType_of_build {additions : List Draft.Addition} {check : Bool} {r : Registry}
    (built : (Draft.after additions).build check = .ok r) : r.hasType rootName = false := by
  rw [hasType, (Draft.build_eq_ok built).1]
  exact Draft.free_after additions

/-! ## Host tables -/

/-- The calls that a host table of fields stands for. -/
def definitions (host : Value → Option Resolver) (owner : String) (fields : Table Value) :
    List Draft.Addition :=
  fields.map fun e => .table host (.text owner) (.text e.1) e.2

/-- The calls that a host table of types stands for. -/
def declarations (host : Value → Option Resolver) (types : Table Value) : List Draft.Addition :=
  types.flatMap fun e => .type (.text e.1) :: definitions host e.1 e.2.fields

variable {host : Value → Option Resolver}

theorem addDefinitions_eq_ok {owner : String} {fields : Table Value} {d d' : Draft}
    (added : addDefinitions host owner fields d = .ok d') :
    d' = d.addAll (definitions host owner fields) := by
  induction fields generalizing d with
  | nil =>
    cases added
    rfl
  | cons e rest ih =>
    obtain ⟨name, definition⟩ := e
    rw [addDefinitions] at added
    split at added
    · cases added
    · rename_i first
      rw [ih added, definitions, definitions, List.map_cons, Draft.addAll_cons, Draft.Addition.run,
        first]

theorem addTypes_eq_ok {types : Table Value} {d d' : Draft}
    (added : addTypes host types d = .ok d') : d' = d.addAll (declarations host types) := by
  induction types generalizing d with
  | nil =>
    cases added
    rfl
  | cons e rest ih =>
    obtain ⟨name, fields⟩ := e
    rw [addTypes] at added
    split at added
    · cases added
    · rename_i declared
      split at added
      · split at added
        · cases added
        · rename_i fs _ defined
          rw [ih added, addDefinitions_eq_ok defined, declarations, declarations, List.flatMap_cons,
            List.cons_append, Draft.addAll_cons, Draft.Addition.run, declared, Draft.addAll_append]
          rfl
      · cases added

/-- **A registry from host tables** comes about by calls that give no field ready-made. -/
theorem additions_of_tables {types queries : Value} {check : Bool} {r : Registry}
    (built : ofTables host types queries check = .ok r) :
    ∃ additions, (∀ a ∈ additions, a.IsRaw) ∧ (Draft.after additions).build check = .ok r := by
  unfold ofTables at built
  split at built
  · cases built
  · split at built
    · cases built
    · split at built
      · rename_i typeTable _
        split at built
        · cases built
        · rename_i d typed
          split at built
          · rename_i queryTable _
            split at built
            · cases built
            · rename_i d' asked
              refine ⟨declarations host typeTable ++ definitions host rootName queryTable, ?_, ?_⟩
              · intro a mem
                have raw (owner : String) (fields : Table Value)
                    (mem : a ∈ definitions host owner fields) : a.IsRaw := by
                  obtain ⟨e, -, rfl⟩ := List.mem_map.1 mem
                  trivial
                rcases List.mem_append.1 mem with declared | query
                · obtain ⟨e, -, inside⟩ := List.mem_flatMap.1 declared
                  rcases List.mem_cons.1 inside with rfl | field
                  · trivial
                  · exact raw _ _ field
                · exact raw _ _ query
              · rw [Draft.after, Draft.addAll_append, ← addTypes_eq_ok typed,
                  ← addDefinitions_eq_ok asked]
                exact built
          · cases built
      · cases built

/-- **A registry from host tables** declares no type under the name of the queries either. -/
theorem hasType_of_tables {types queries : Value} {check : Bool} {r : Registry}
    (built : ofTables host types queries check = .ok r) : r.hasType rootName = false := by
  obtain ⟨additions, -, built⟩ := additions_of_tables built
  exact hasType_of_build built

end CallTree.Registry
