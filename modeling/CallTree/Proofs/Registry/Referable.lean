/-
# CallTree.Proofs.Registry.Referable — which declared types fields can refer to.

A type is declared under any text that is not empty, not the name of the queries and not that of a native
type. Fields refer to types by tokens, and the name in a token holds no marker. So a declared type can be
referred to exactly if its name holds none (`Registry.referable_iff`). Then its name is a token for it, and so
are its name with the marker behind it and a list of either: a field with such a type passes the check of
references, and what is asked below a call of it is resolved on the fields of the type.

A name that holds the marker is declared without a complaint, and no token denotes it.
-/
import CallTree.Proofs.Registry.Frame
import CallTree.Proofs.Registry.References
import CallTree.Resolution

namespace CallTree

open Descriptor (Denotes marker)

namespace Descriptor

/-- **The tokens for a custom type**, with what they are to denote: its name, which may have the marker behind
it, and a list of one of the two. -/
inductive Refers (name : String) : Value → Descriptor → Prop where
  | value : Refers name (.text name) { name }
  | required : Refers name (.text (name.push marker)) { name, isRequired := true }
  | values : Refers name (.list [.text name]) { name, isArray := true }
  | requiredValues : Refers name (.list [.text (name.push marker)]) { name, isArray := true, isRequired := true }

variable {name : String} {token : Value} {d : Descriptor}

theorem Refers.name_eq (refers : Refers name token d) : d.name = name := by
  cases refers <;> rfl

theorem Refers.custom (refers : Refers name token d) : d.isNative = false := by
  cases refers <;> rfl

theorem Refers.token_eq (refers : Refers name token d) : d.token = token := by
  cases refers <;> rfl

end Descriptor

open Descriptor (Refers)

namespace Registry

namespace Draft

/-! ## Names of declared types -/

/-- Whatever is declared has a name that a type may have. -/
theorem typeName_after (additions : List Addition) :
    ∀ name, (after additions).types.has name = true → TypeName name := by
  have set {d : Draft} {owner : String} (chunk : Chunk) (named : TypeName owner)
      (before : ∀ name, d.types.has name = true → TypeName name) (name : String)
      (has : (d.types.set owner chunk).has name = true) : TypeName name := by
    by_cases here : owner = name
    · exact here ▸ named
    · rw [Table.has_set_of_ne _ _ here] at has
      exact before name has
  refine holds_after (P := fun d => ∀ name, d.types.has name = true → TypeName name) nofun ?_
  intro d d' change before
  cases change with
  | declare named =>
    unfold Draft.declare
    split
    · exact before
    · exact set _ named before
  | @write owner name f known _ =>
    unfold Draft.setField
    split
    · exact before
    · rename_i custom
      exact set _ (before owner (known.resolve_left custom)) before

/-- **A name without the marker is referred to** by each of its tokens. -/
theorem TypeName.denotes {name : String} (named : TypeName name) (unmarked : marker ∉ name.toList)
    {token : Value} {d : Descriptor} (refers : Refers name token d) : Denotes token d := by
  refine ⟨?_, ?_, ?_, .inl refers.token_eq.symm⟩
  · rw [refers.name_eq]
    exact named.nonempty
  · rw [refers.name_eq]
    exact unmarked
  · rw [refers.custom, refers.name_eq]
    exact iff_of_false nofun fun ⟨n, same⟩ => (named.notNative n).1 same.symm

/-! ## References that stay in order -/

variable {owner : String} {old new : Chunk} {d d' : Draft}

theorem Rewritten.has (writes : Rewritten owner old new d d') {name : String}
    (declared : d.types.has name = true) : d'.types.has name = true := by
  rw [Table.has_iff] at *
  cases writes with
  | queries => exact declared
  | type => simpa [Table.keys] using declared
  | first => exact List.mem_map.2 (by simpa [Table.keys] using Or.inl declared)

/-- **Step.** If one chunk changes, the references stay in order as long as those of its new fields are. -/
theorem Rewritten.closed (writes : Rewritten owner old new d d') (closed : Closed ⟨d.types, d.root⟩)
    (fine : ∀ e ∈ new, e ∈ old ∨ e.2.type.isNative = true ∨ d.types.has e.2.type.name = true) :
    Closed ⟨d'.types, d'.root⟩ := by
  have there : old = [] ∨ (owner, old) ∈ (rootName, d.root) :: d.types := by
    cases writes with
    | queries => exact .inr List.mem_cons_self
    | type => simp
    | first => exact .inl rfl
  have chunks : ∀ c ∈ (rootName, d'.root) :: d'.types,
      c ∈ (rootName, d.root) :: d.types ∨ c = (owner, new) := by
    cases writes <;> simp <;> tauto
  have before {c : String × Chunk} (mem : c ∈ (rootName, d.root) :: d.types) {e : String × Field}
      (inside : e ∈ c.2) := (closed c mem e inside).imp_right writes.has
  intro c mem e inside
  rcases chunks c mem with kept | rfl
  · exact before kept inside
  · rcases fine e inside with stays | known
    · rcases there with rfl | there
      · cases stays
      · exact before there stays
    · exact known.imp_right writes.has

/-- **A call with a field of a declared type** leaves the references in order, whether it is refused or not. -/
theorem Framed.closed {a : Addition} {step : Step} (framed : Framed d a step) {definition : Definition}
    (given : a.definition? = some definition) {type : Descriptor} (denotes : Denotes definition.type type)
    (declared : d.types.has type.name = true) (closed : Closed ⟨d.types, d.root⟩) :
    Closed ⟨step.2.types, step.2.root⟩ := by
  cases framed with
  | declared => cases given
  | declaredBefore => cases given
  | put => cases given
  | refused => exact closed
  | leftOpen _ _ named absent _ => exact (Rewritten.first named absent d.root []).closed closed nofun
  | @added _ _ name _ f chunk _ _ _ same reads _ writes =>
    cases given.symm.trans same
    refine writes.closed closed fun e mem => ?_
    rcases List.mem_append.1 mem with before | new
    · exact .inl before
    · have same : f.type = type := (readField_eq_ok_iff.1 reads).denotes.unique denotes
      rw [List.mem_singleton.1 new, same]
      exact .inr (.inr declared)

end Draft

/-! ## Declared types -/

/-- **A type that fields can refer to.** Each of its tokens denotes it. The check of references passes over a
field of the type: if the references of the registry are in order, it can still be built with these checked
when a call has given a field with such a token, whether the call is refused or not. When a field of the type
is called, the type is found to be declared, and whatever is asked below the call is resolved on the fields of
the type. -/
structure Referable (r : Registry) (name : String) (chunk : Chunk) : Prop where
  denotes : ∀ {token d}, Refers name token d → Denotes token d
  passes : ∀ {token : Value} {f : Field}, Refers name token f.type → ∀ owner field rest,
    Draft.undefinedIn r.types owner ((field, f) :: rest) = Draft.undefinedIn r.types owner rest
  checks : ∀ {a : Draft.Addition} {definition : Definition} {d : Descriptor}, r.Closed →
    a.definition? = some definition → Refers name definition.type d →
      ∃ r', (a.run ⟨r.types, r.root⟩).2.build true = .ok r'
  declared : ∀ {token d}, Refers name token d → Check.declared r d = .ok ()
  enters : ∀ {token : Value} {f : Field} {scope : Scope} {call : String}, Refers name token f.type →
    scope.chunk.get? call = some f → ∀ args hasChildren path children,
      Resolution.callField r call args hasChildren scope path children =
        Resolution.callField r call args hasChildren scope path fun below path =>
          children ⟨name, chunk, below.data⟩ path

/-- A call asks for its children on the fields of its type. -/
theorem callField_eq {r : Registry} {scope : Scope} {call : String} {f : Field}
    (found : scope.chunk.get? call = some f) {chunk : Chunk} (known : r.chunk? f.type.name = some chunk)
    (args : Option (Table Value)) (hasChildren : Bool) (path : Path) (children : Scope → Path → Work) :
    Resolution.callField r call args hasChildren scope path children =
      Resolution.callField r call args hasChildren scope path fun below path =>
        children ⟨f.type.name, chunk, below.data⟩ path := by
  simp only [Resolution.callField, found, Resolution.complete, Resolution.descend, known, Option.getD_some]

variable {check : Bool} {r : Registry} {name : String}

/-- **References to declared types.** A type that a registry declares can be referred to exactly if its name
does not hold the marker. If it does, no token denotes the type. -/
theorem referable_iff (made : r.Made check) (declared : r.hasType name = true) :
    ((∃ chunk, r.types.get? name = some chunk ∧ r.Referable name chunk) ↔ marker ∉ name.toList) ∧
      (marker ∈ name.toList → ∀ token d, Denotes token d → d.name ≠ name) := by
  have never (marked : marker ∈ name.toList) (token : Value) (d : Descriptor) (denotes : Denotes token d) :
      d.name ≠ name := by
    rintro rfl
    exact denotes.unmarked marked
  refine ⟨⟨?_, fun unmarked => ?_⟩, never⟩
  · rintro ⟨chunk, -, referable⟩ marked
    exact never marked _ _ (referable.denotes .value) rfl
  · obtain ⟨additions, built⟩ := made.exists_additions
    have same := (Draft.build_eq_ok_iff.1 built).1
    have named : Draft.TypeName name := by
      rw [same] at declared
      exact Draft.typeName_after additions name declared
    obtain ⟨-, chunk, found, known⟩ := made.chunk?_of_hasType declared
    refine ⟨chunk, found, named.denotes unmarked, ?_, ?_, ?_, ?_⟩
    · intro token f refers owner field rest
      have there : r.types.has f.type.name = true := by
        rw [refers.name_eq]
        exact declared
      simp [Draft.undefinedIn, there]
    · intro a definition d closed given refers
      have there : r.types.has d.name = true := by
        rw [refers.name_eq]
        exact declared
      have closed' := (Draft.framed ⟨r.types, r.root⟩ a).closed given (named.denotes unmarked refers) there closed
      exact ⟨_, Draft.build_eq_ok_iff.2 ⟨rfl, fun _ => closed'⟩⟩
    · intro token d refers
      rw [Check.declared, refers.name_eq, declared, if_pos rfl]
    · intro token f scope call refers calls args hasChildren path children
      have same := refers.name_eq
      subst same
      exact callField_eq calls known args hasChildren path children

/-- Two types, of which the name of the second holds the marker. -/
def marked : List Draft.Addition := [.type (.text "Person"), .type (.text "Person!")]

theorem referable_iff_marked : ∃ r, (Draft.after marked).build true = .ok r ∧ r.Referable "Person" [] ∧
    ¬ (∃ chunk, r.types.get? "Person!" = some chunk ∧ r.Referable "Person!" chunk) ∧
      ∀ token d, Denotes token d → d.name ≠ "Person!" := by
  have built : (Draft.after marked).build true = .ok ⟨[("Person", []), ("Person!", [])], []⟩ := rfl
  obtain ⟨chunk, found, referable⟩ := (@referable_iff _ _ "Person" (.build built) rfl).1.2 (by decide)
  obtain ⟨refers, never⟩ := @referable_iff _ _ "Person!" (.build built) rfl
  cases found
  exact ⟨_, built, referable, fun can => refers.1 can (by decide), never (by decide)⟩

/-- **A type with the marker in its name** is declared, and a field with this name for its type refers to
another one, which is not. -/
theorem undefined_of_marked :
    (∃ r, (Draft.after [.type (.text "Person!")]).build true = .ok r ∧ r.hasType "Person!" = true ∧
      ∀ d, Denotes (.text "Person!") d → d.name = "Person") ∧
    (Draft.after [.type (.text "Person!"),
      .query (.text "viewer") { type := .text "Person!", resolve := some (Example.required "viewer") }]).build
        true = .error (.undefinedType "Root" "viewer" "Person") := by
  refine ⟨⟨_, rfl, rfl, fun d denotes => ?_⟩, rfl⟩
  have person : Denotes (.text "Person!") { name := "Person", isRequired := true } :=
    Descriptor.denotes_iff.2 ⟨rfl, rfl⟩
  rw [denotes.unique person]

end Registry

end CallTree
