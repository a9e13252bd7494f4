/-
# CallTree.Proofs.Registry.Frame — what a call on a draft leaves alone.

A call that succeeds declares a type at the end of the types, or writes one field of one chunk, and does
nothing else. A call that fails leaves the queries and every chunk as they are, and there is one thing
that it can leave behind: the type that its first field was to declare, still empty. `Draft.Framed` says
so call by call, and `Draft.framed` that every call obeys. Since building reads a draft and does not write
it, the draft after a session is the one that its other calls make by themselves (`Draft.framed_session`).

As long as no field comes ready-made, drafts only grow (`Draft.Grown`): what has been written once keeps its
place, and what is new goes behind it.
-/
import CallTree.Example.People
import CallTree.Proofs.Except
import CallTree.Proofs.Registry

namespace CallTree

namespace Table

variable {α : Type}

/-- A present key, with what stands before and behind it: writing changes its value alone. -/
theorem exists_split_of_get? {t : Table α} {key : String} {value : α} (h : t.get? key = some value) :
    ∃ front back, t = front ++ (key, value) :: back ∧ has front key = false ∧
      ∀ other, t.set key other = front ++ (key, other) :: back := by
  induction t with
  | nil => cases h
  | cons e rest ih =>
    obtain ⟨k, v⟩ := e
    by_cases here : k = key
    · subst here
      simp only [get?, if_true, Option.some.injEq] at h
      subst h
      exact ⟨[], rest, rfl, rfl, fun other => by simp [set]⟩
    · simp only [get?, if_neg here] at h
      obtain ⟨front, back, rfl, absent, writes⟩ := ih h
      refine ⟨(k, v) :: front, back, rfl, ?_, fun other => by simp [set, here, writes]⟩
      rw [has, get?, if_neg here]
      exact absent

/-- Of two values written under one key the later one stays. -/
theorem set_set (t : Table α) (key : String) (value value' : α) :
    (t.set key value).set key value' = t.set key value' := by
  induction t with
  | nil => simp [set]
  | cons e rest ih =>
    obtain ⟨k, v⟩ := e
    by_cases here : k = key <;> simp [set, here, ih]

end Table

namespace Registry.Draft

/-! ## Changes of one chunk -/

/-- **One chunk changes, and nothing else**: the queries, a declared type, or a type that is new and goes
to the end. -/
inductive Rewritten : String → Chunk → Chunk → Draft → Draft → Prop where
  | queries (types : Table Chunk) (old new : Chunk) :
      Rewritten rootName old new ⟨types, old⟩ ⟨types, new⟩
  | type {owner : String} (custom : owner ≠ rootName) {front : Table Chunk}
      (absent : front.has owner = false) (back : Table Chunk) (root old new : Chunk) :
      Rewritten owner old new ⟨front ++ (owner, old) :: back, root⟩ ⟨front ++ (owner, new) :: back, root⟩
  | first {owner : String} {types : Table Chunk} (named : TypeName owner)
      (absent : types.has owner = false) (root new : Chunk) :
      Rewritten owner [] new ⟨types, root⟩ ⟨types ++ [(owner, new)], root⟩

/-- **A field is put under its name**: behind the others, or in the place of one of this name. -/
inductive Placed (name : String) (f : Field) : Chunk → Chunk → Prop where
  | behind {chunk : Chunk} (fresh : chunk.has name = false) : Placed name f chunk (chunk ++ [(name, f)])
  | instead {front : Chunk} (absent : front.has name = false) (back : Chunk) (old : Field) :
      Placed name f (front ++ (name, old) :: back) (front ++ (name, f) :: back)

theorem placed_set (chunk : Chunk) (name : String) (f : Field) :
    Placed name f chunk (chunk.set name f) := by
  cases present : chunk.has name with
  | false =>
    rw [Table.set_of_not_has chunk f present]
    exact .behind present
  | true =>
    obtain ⟨old, found⟩ := Option.isSome_iff_exists.1 present
    obtain ⟨front, back, rfl, absent, writes⟩ := Table.exists_split_of_get? found
    rw [writes]
    exact .instead absent back old

/-- Writing a field of the queries or of a declared type. -/
theorem rewritten_setField (d : Draft) {owner : String}
    (known : owner = rootName ∨ d.types.has owner = true) (name : String) (f : Field) :
    Rewritten owner (d.chunk owner) ((d.chunk owner).set name f) d (d.setField owner name f) := by
  by_cases queries : owner = rootName
  · subst queries
    simp only [setField, chunk, if_true]
    exact .queries d.types d.root _
  · obtain ⟨chunk, found⟩ := Option.isSome_iff_exists.1 (known.resolve_left queries)
    obtain ⟨front, back, same, absent, writes⟩ := Table.exists_split_of_get? found
    have current : d.chunk owner = chunk := by simp [Draft.chunk, queries, found]
    obtain ⟨types, root⟩ := d
    simp only [setField, if_neg queries, current, writes]
    subst same
    exact .type queries absent back root chunk _

/-! ## Owners -/

/-- The draft with one more type, which has no fields. -/
def opened (d : Draft) (name : String) : Draft := ⟨d.types ++ [(name, [])], d.root⟩

theorem declare_of_absent {d : Draft} {name : String} (absent : d.types.has name = false) :
    d.declare name = d.opened name := by
  simp [declare, absent, opened, Table.set_of_not_has]

end Registry.Draft

namespace SpecFault

/-- **A fault that is found before anything is written**: the name of the type, what should be a
definition, its type, or a field that there is already. -/
def Early : SpecFault → Prop
  | .typeName _ | .reservedName | .nativeName _ | .noDefinition _ _ | .noType _ _ | .duplicate _ _ => True
  | _ => False

/-- A fault in what is said of a field: its name, its type, its resolver, or its arguments. -/
def OfField : SpecFault → Prop
  | .fieldName _ | .typeToken _ _ _ | .noResolver _ _ | .noContract _ _ | .argumentToken _ _ _ _
  | .argumentType _ _ _ _ => True
  | _ => False

/-- What is wrong with what is said of a field is found late. -/
theorem OfField.late {e : SpecFault} (inside : e.OfField) : ¬ e.Early := by
  cases e <;> first | exact id | exact inside.elim

end SpecFault

namespace Registry.Draft

/-- **What opening a chunk comes to**: a chunk that is there, a new one, or a refusal. -/
inductive Opens (d : Draft) : Value → Except SpecFault String × Draft → Prop where
  | known {name : String} (known : name = rootName ∨ d.types.has name = true) :
      Opens d (.text name) (.ok name, d)
  | first {name : String} (named : TypeName name) (absent : d.types.has name = false) :
      Opens d (.text name) (.ok name, d.opened name)
  | refused {owner : Value} {e : SpecFault}
      (unfit : ∀ name, owner = .text name → ¬ TypeName name) : Opens d owner (.error e, d)

theorem opens_openChunk (d : Draft) (owner : Value) : Opens d owner (d.openChunk owner) := by
  unfold openChunk
  split
  · rename_i k unkeyable
    apply Opens.refused
    rintro name rfl
    simp [Value.unkeyable?] at unkeyable
  · split
    · rename_i name
      split
      · rename_i there
        rw [Bool.or_eq_true, decide_eq_true_iff] at there
        exact .known there
      · rename_i absent
        simp only [Bool.or_eq_true, decide_eq_true_iff, not_or, Bool.not_eq_true] at absent
        split
        · rename_i e unread
          apply Opens.refused
          rintro _ ⟨⟩ named
          rw [readTypeName_eq_ok_iff.2 ⟨rfl, named⟩] at unread
          cases unread
        · rename_i reads
          obtain ⟨same, named⟩ := readTypeName_eq_ok_iff.1 reads
          cases same
          rw [declare_of_absent absent.2]
          exact .first named absent.2
    · rename_i v noText
      exact .refused fun name same => absurd same (noText name)

/-! ## Fields -/

/-- A new field of an open chunk, under its name. -/
def readNew (d : Draft) (owner : String) (name : Value) (definition : Definition) :
    Except SpecFault (String × Field) :=
  match name.unkeyable? with
  | some k => .error (.unkeyable k)
  | none =>
    match name with
    | .text field =>
      if (d.chunk owner).has field then .error (.duplicate field owner)
      else (readField owner name definition).map fun f => (field, f)
    | v => .error (.fieldName v)

/-- Adding a field is opening its chunk, reading it, and writing it if nothing was wrong. -/
theorem addField_eq (d : Draft) (owner name : Value) (definition : Definition) :
    d.addField owner name definition =
      match d.openChunk owner with
      | (.error e, d) => (.error e, d)
      | (.ok owner, d) =>
        match d.readNew owner name definition with
        | .error e => (.error e, d)
        | .ok (field, f) => (.ok (), d.setField owner field f) := by
  unfold addField
  rcases d.openChunk owner with ⟨e | owner', d'⟩
  · rfl
  · simp only [readNew]
    cases name.unkeyable? with
    | some k => rfl
    | none =>
      cases name with
      | text field =>
        by_cases present : (d'.chunk owner').has field = true
        · simp [present]
        · cases readField owner' (.text field) definition <;> simp [present, Except.map]
      | _ => rfl

/-- A field that is read is new in its chunk. -/
theorem readNew_eq_ok_iff {d : Draft} {owner : String} {name : Value} {definition : Definition}
    {field : String} {f : Field} : d.readNew owner name definition = .ok (field, f) ↔
      name = .text field ∧ (d.chunk owner).has field = false ∧
        readField owner (.text field) definition = .ok f := by
  unfold readNew
  constructor
  · intro reads
    split at reads
    · cases reads
    · split at reads
      · rename_i field' _
        split at reads
        · cases reads
        · rename_i fresh
          obtain ⟨f', read, same⟩ := map_eq_ok_iff.1 reads
          cases same
          exact ⟨rfl, Bool.eq_false_iff.2 fresh, read⟩
      · cases reads
  · rintro ⟨rfl, fresh, read⟩
    simp [Value.unkeyable?, fresh, read, Except.map]

theorem ofField_of_readContract {owner field : String} {fs : Table Value} {e : SpecFault}
    (fails : readContract owner field fs = .error e) : e.OfField := by
  rw [readContract_eq] at fails
  obtain ⟨a, -, unread⟩ := Table.exists_of_readEach_eq_error fails
  unfold readArgument at unread
  split at unread
  · cases unread
    trivial
  · split at unread
    · cases unread
      trivial
    · split at unread
      · cases unread
        trivial
      · cases unread

/-- **What can be wrong with a field.** -/
theorem ofField_of_readField {owner : String} {name : Value} {definition : Definition} {e : SpecFault}
    (fails : readField owner name definition = .error e) : e.OfField := by
  unfold readField at fails
  split at fails
  · rename_i e' unread
    cases fails
    unfold readFieldName at unread
    split at unread
    · split at unread
      · cases unread
        trivial
      · cases unread
    · cases unread
      trivial
  · split at fails
    · cases fails
      trivial
    · split at fails
      · cases fails
        trivial
      · cases fails
        trivial
      · have unread := error_of_map fails
        unfold readExpect at unread
        split at unread
        · cases unread
        · exact ofField_of_readContract unread
        · cases unread
          trivial

/-- A new field of a chunk that has no fields is not one too many. -/
theorem late_of_readNew {d : Draft} {owner : String} (empty : d.chunk owner = []) {name : Value}
    {definition : Definition} {e : SpecFault} (fails : d.readNew owner name definition = .error e) :
    ¬ e.Early := by
  unfold readNew at fails
  split at fails
  · cases fails
    exact id
  · split at fails
    · rw [empty] at fails
      exact (ofField_of_readField (error_of_map fails)).late
    · cases fails
      exact id

/-! ## Calls -/

/-- The type that a call is about; a query belongs to the type of the queries. -/
def Addition.owner : Addition → Value
  | .type name => name
  | .field owner _ _ => owner
  | .query _ _ => .text rootName
  | .table _ owner _ _ => owner
  | .ready owner _ _ => owner

/-- The name of the field that a call is to add. -/
def Addition.fieldName? : Addition → Option Value
  | .type _ => none
  | .field _ name _ => some name
  | .query name _ => some name
  | .table _ _ name _ => some name
  | .ready _ name _ => some (.text name)

/-- **What a call may do to a draft**, with what it answers.

* To declare a type puts an empty chunk behind the others, if there is none of its name.
* To add a field that has been read puts it behind the others of its chunk, under a name that is new there.
* To put a field that is ready-made puts it under its name.
* A call that is refused changes nothing, or it leaves the type behind that its field was to be the first
  of. That type has a name that a type may have and that was new, and what was wrong was found late. -/
inductive Framed (d : Draft) : Addition → Step → Prop where
  | declared {name : String} (named : TypeName name) (absent : d.types.has name = false) :
      Framed d (.type (.text name)) (.ok (), d.opened name)
  | declaredBefore {name : String} (present : d.types.has name = true) :
      Framed d (.type (.text name)) (.ok (), d)
  | added {a : Addition} {owner name : String} {definition : Definition} {f : Field} {chunk : Chunk}
      {d' : Draft} (on : a.owner = .text owner) (under : a.fieldName? = some (.text name))
      (given : a.definition? = some definition)
      (reads : readField owner (.text name) definition = .ok f) (fresh : chunk.has name = false)
      (writes : Rewritten owner chunk (chunk ++ [(name, f)]) d d') : Framed d a (.ok (), d')
  | put {owner name : String} {f : Field} {old new : Chunk} {d' : Draft} (places : Placed name f old new)
      (writes : Rewritten owner old new d d') : Framed d (.ready (.text owner) name f) (.ok (), d')
  | refused {a : Addition} {e : SpecFault} : Framed d a (.error e, d)
  | leftOpen {a : Addition} {e : SpecFault} {name : String} (on : a.owner = .text name)
      (field : a.fieldName?.isSome = true) (named : TypeName name) (absent : d.types.has name = false)
      (late : ¬ e.Early) : Framed d a (.error e, d.opened name)

theorem chunk_opened {d : Draft} {name : String} (named : TypeName name)
    (absent : d.types.has name = false) : (d.opened name).chunk name = [] := by
  rw [← declare_of_absent absent, declare, absent, if_neg Bool.false_ne_true, chunk,
    if_neg named.notRoot, Table.get?_set_self]
  rfl

/-- The first field of a new type goes with it to the end. -/
theorem rewritten_opened {d : Draft} {name : String} (named : TypeName name)
    (absent : d.types.has name = false) (field : String) (f : Field) :
    Rewritten name [] [(field, f)] d ((d.opened name).setField name field f) := by
  have types : (d.opened name).types.set name [(field, f)] = d.types ++ [(name, [(field, f)])] := by
    rw [opened, ← Table.set_of_not_has d.types [] absent, Table.set_set, Table.set_of_not_has _ _ absent]
  have writes : (d.opened name).setField name field f = ⟨d.types ++ [(name, [(field, f)])], d.root⟩ := by
    rw [setField, if_neg named.notRoot, chunk_opened named absent, ← types]
    rfl
  rw [writes]
  exact .first named absent d.root _

theorem framed_addField (d : Draft) {a : Addition} {owner name : Value} {definition : Definition}
    (on : a.owner = owner) (under : a.fieldName? = some name) (given : a.definition? = some definition) :
    Framed d a (d.addField owner name definition) := by
  -- The chunk is opened before the field is read, so a field that is refused can leave a new type behind.
  rw [addField_eq]
  have opens := opens_openChunk d owner
  generalize d.openChunk owner = result at opens
  cases opens with
  | refused _ => exact .refused
  | @known owner there =>
    simp only
    cases reads : d.readNew owner name definition with
    | error e => exact .refused
    | ok new =>
      obtain ⟨field, f⟩ := new
      obtain ⟨rfl, fresh, read⟩ := readNew_eq_ok_iff.1 reads
      have writes := rewritten_setField d there field f
      rw [Table.set_of_not_has _ f fresh] at writes
      exact .added on under given read fresh writes
  | @first owner named absent =>
    simp only
    have empty := chunk_opened named absent
    cases reads : (d.opened owner).readNew owner name definition with
    | error e => exact .leftOpen on (by rw [under]; rfl) named absent (late_of_readNew empty reads)
    | ok new =>
      obtain ⟨field, f⟩ := new
      obtain ⟨rfl, -, read⟩ := readNew_eq_ok_iff.1 reads
      exact .added on under given read rfl (rewritten_opened named absent field f)

theorem framed_putField (d : Draft) (owner : Value) (name : String) (f : Field) :
    Framed d (.ready owner name f) (d.putField owner name f) := by
  unfold putField
  have opens := opens_openChunk d owner
  generalize d.openChunk owner = result at opens
  cases opens with
  | refused _ => exact .refused
  | known there => exact .put (placed_set _ name f) (rewritten_setField d there name f)
  | first named absent => exact .put (.behind rfl) (rewritten_opened named absent name f)

theorem framed_addType (d : Draft) (name : Value) : Framed d (.type name) (d.addType name) := by
  unfold addType
  split
  · exact .refused
  · rename_i name' reads
    obtain ⟨rfl, named⟩ := readTypeName_eq_ok_iff.1 reads
    cases present : d.types.has name' with
    | false =>
      rw [declare_of_absent present]
      exact .declared named present
    | true =>
      rw [declare, present, if_pos rfl]
      exact .declaredBefore present

/-- **Step.** Every call does what a call may do, whatever it is given. -/
theorem framed (d : Draft) (a : Addition) : Framed d a (a.run d) := by
  cases a with
  | type name => exact framed_addType d name
  | field owner name definition => exact framed_addField d rfl rfl rfl
  | query name definition => exact framed_addField d rfl rfl rfl
  | ready owner name f => exact framed_putField d owner name f
  | table host owner name definition =>
    show Framed d _ (d.addDefinition host owner name definition)
    unfold addDefinition
    split
    · rename_i fs
      split
      · exact .refused
      · rename_i type typed
        apply framed_addField d rfl rfl
        rw [Addition.definition?, typed]
        rfl
    · exact .refused

/-! ## Growth -/

/-- **A draft that another one has grown from**: its queries and its types, and the fields of each type,
are the first ones of the other draft, in the same order. -/
structure Grown (d d' : Draft) : Prop where
  queries : d.root <+: d'.root
  types : ∀ (i : Nat) (name : String) (chunk : Chunk), d.types[i]? = some (name, chunk) →
    ∃ chunk', d'.types[i]? = some (name, chunk') ∧ chunk <+: chunk'

theorem Grown.refl (d : Draft) : Grown d d :=
  ⟨List.prefix_refl _, fun _ _ chunk at_ => ⟨chunk, at_, List.prefix_refl _⟩⟩

theorem Grown.trans {d d' d'' : Draft} (first : Grown d d') (second : Grown d' d'') : Grown d d'' := by
  refine ⟨first.queries.trans second.queries, ?_⟩
  intro i name chunk at_
  obtain ⟨chunk', at', before⟩ := first.types i name chunk at_
  obtain ⟨chunk'', at'', before'⟩ := second.types i name chunk' at'
  exact ⟨chunk'', at'', before.trans before'⟩

theorem grown_opened (d : Draft) (name : String) : Grown d (d.opened name) := by
  refine ⟨List.prefix_refl _, ?_⟩
  intro i other chunk at_
  have bound := (List.getElem?_eq_some_iff.1 at_).1
  exact ⟨chunk, by rw [opened, List.getElem?_append_left bound, at_], List.prefix_refl _⟩

/-- A chunk to which something is added at its end. -/
theorem Rewritten.grown {owner : String} {old new : Chunk} {d d' : Draft}
    (writes : Rewritten owner old new d d') (longer : old <+: new) : Grown d d' := by
  -- By the place of the chunk. The places of the types before and behind it are theirs.
  cases writes with
  | queries types => exact ⟨longer, fun _ _ chunk at_ => ⟨chunk, at_, List.prefix_refl _⟩⟩
  | @type _ _ front _ back root =>
    refine ⟨List.prefix_refl _, ?_⟩
    intro i name chunk at_
    by_cases here : i = front.length
    · subst here
      simp only [List.getElem?_append_right (Nat.le_refl _), Nat.sub_self, List.getElem?_cons_zero,
        Option.some.injEq, Prod.mk.injEq] at at_ ⊢
      obtain ⟨rfl, rfl⟩ := at_
      exact ⟨new, ⟨rfl, rfl⟩, longer⟩
    · -- Every other type is at the place where it was.
      refine ⟨chunk, ?_, List.prefix_refl _⟩
      rw [← at_]
      simp only [List.getElem?_append, List.getElem?_cons]
      split
      · rfl
      · rw [if_neg (by omega), if_neg (by omega)]
  | first named absent root =>
    refine ⟨List.prefix_refl _, ?_⟩
    intro i name chunk at_
    have bound := (List.getElem?_eq_some_iff.1 at_).1
    exact ⟨chunk, by rw [List.getElem?_append_left bound, at_], List.prefix_refl _⟩

/-- **A call that gives no field ready-made only adds to a draft.** -/
theorem Framed.grown {d : Draft} {a : Addition} {step : Step} (framed : Framed d a step)
    (raw : a.IsRaw) : Grown d step.2 := by
  cases framed with
  | declared _ _ => exact grown_opened d _
  | declaredBefore _ => exact .refl d
  | added _ _ _ _ _ writes => exact writes.grown (List.prefix_append _ _)
  | put _ _ => exact raw.elim
  | refused => exact .refl d
  | leftOpen _ _ _ _ _ => exact grown_opened d _

theorem grown_addAll (d : Draft) {additions : List Addition} (raw : ∀ a ∈ additions, a.IsRaw) :
    Grown d (d.addAll additions) := by
  induction additions generalizing d with
  | nil => exact .refl d
  | cons a rest ih =>
    obtain ⟨first, others⟩ := List.forall_mem_cons.1 raw
    exact ((framed d a).grown first).trans (ih _ others)

/-! ## Sessions -/

/-- **`Call`** — what a host does with a draft: it adds to it, or has a registry built from it. -/
inductive Call where
  | add (a : Addition)
  | build (check : Bool)

namespace Call

/-- Carry a call out: what it answers, and the draft behind it. -/
def run (d : Draft) : Call → Except SpecFault (Option Registry) × Draft
  | .add a => ((a.run d).1.map fun _ => none, (a.run d).2)
  | .build check => ((d.build check).map some, d)

/-- The addition of a call, if it is one. -/
def addition? : Call → Option Addition
  | .add a => some a
  | .build _ => none

end Call

/-- The draft behind some calls. -/
def perform (d : Draft) (calls : List Call) : Draft := calls.foldl (fun d c => (c.run d).2) d

/-- **Run.** Building changes nothing: what calls make of a draft, their additions make by themselves. -/
theorem perform_eq (d : Draft) (calls : List Call) :
    d.perform calls = d.addAll (calls.filterMap Call.addition?) := by
  induction calls generalizing d with
  | nil => rfl
  | cons c rest ih =>
    cases c with
    | add a => exact ih (a.run d).2
    | build check => exact ih d

/-- **The frame of calls on a draft.** After any session, whatever its calls are given and whether they
fail or not: every call does what a call may do and nothing else, a registry is built from the draft as it
is and leaves it so, and calls that give no field ready-made keep all that there is, in its order. -/
theorem framed_session (calls : List Call) :
    ({} : Draft).perform calls = after (calls.filterMap Call.addition?) ∧
    (∀ a, Framed (({} : Draft).perform calls) a (a.run (({} : Draft).perform calls))) ∧
    (∀ check, ((Call.build check).run (({} : Draft).perform calls)).2 = ({} : Draft).perform calls) ∧
    ∀ more : List Call, (∀ a ∈ more.filterMap Call.addition?, a.IsRaw) →
      Grown (({} : Draft).perform calls) ((({} : Draft).perform calls).perform more) := by
  refine ⟨perform_eq _ calls, framed _, fun _ => rfl, ?_⟩
  intro more raw
  rw [perform_eq _ more]
  exact grown_addAll _ raw

/-- A session in which a type is declared, a registry is built, and a field is refused for its name. -/
def cats : List Call := [
  .add (.type (.text "Person")),
  .build true,
  .add (.field (.text "Cat") (.text "::when")
    { type := .text "Person", resolve := some (Example.required "cat") })]

/-- The type of the refused field is left behind, and the next field of that type is its first. -/
theorem framed_session_cats :
    let name : Addition :=
      .field (.text "Cat") (.text "name") { type := .text "String", resolve := some (Example.required "name") }
    let d := ({} : Draft).perform cats
    d.types = [("Person", []), ("Cat", [])] ∧ Framed d name (name.run d) ∧
      Grown d (d.perform [.add name, .build false]) := by
  intro name d
  obtain ⟨-, each, -, grows⟩ := framed_session cats
  refine ⟨rfl, each name, grows [.add name, .build false] ?_⟩
  simp [Call.addition?, name, Addition.IsRaw]

end Registry.Draft

end CallTree
