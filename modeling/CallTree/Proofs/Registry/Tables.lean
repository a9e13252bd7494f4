/-
# CallTree.Proofs.Registry.Tables — which host tables make a registry, and which registry.

Host tables are read type by type and field by field, and each field is written into a draft as soon as it
is read. Since no key of a table is repeated, the draft never gets in the way: every entry is read by
itself (`ofTables_eq`). What an entry says of a field is `Defines`; it mentions no draft and no order.
`tables_exact` puts this together with the check of references: tables are accepted exactly if they are
`Sound`, and the registry then holds what they say, entry by entry.
-/
import CallTree.Proofs.Registry.Frame
import CallTree.Proofs.Registry.References
import CallTree.Proofs.Registry.WellFormed
import CallTree.Proofs.Value

namespace CallTree

namespace SpecFault

/-! ## What is reported -/

/-- A value that the sentence of a fault quotes. -/
inductive Quotes : SpecFault → Value → Prop where
  | typeName (name : Value) : Quotes (.typeName name) name
  | fieldName (name : Value) : Quotes (.fieldName name) name
  | typeToken (owner field : String) (token : Value) : Quotes (.typeToken owner field token) token
  | argumentToken (owner field arg : String) (token : Value) :
      Quotes (.argumentToken owner field arg token) token
  | definitionOwner (owner field : Value) : Quotes (.noDefinition owner field) owner
  | definitionField (owner field : Value) : Quotes (.noDefinition owner field) field
  | typeOwner (owner field : Value) : Quotes (.noType owner field) owner
  | typeField (owner field : Value) : Quotes (.noType owner field) field

/-- **A fault that is told** in a sentence of its own. -/
def Told (e : SpecFault) : Prop := ∃ sentence, e.message = .ok sentence

/-- A place can be told exactly if both of its names can be written. -/
theorem exists_placeOf_iff (owner field : Value) :
    (∃ s, placeOf owner field = .ok s) ↔ owner.Writable ∧ field.Writable := by
  rw [← owner.exists_display_iff, ← field.exists_display_iff, placeOf]
  cases owner.display <;> cases field.display <;> simp

theorem told_iff_of_literal {e : SpecFault} {v : Value} {sentence : String → String}
    (same : e.message = v.literal.map sentence) : e.Told ↔ v.Writable := by
  rw [Told, same, map_succeeds_iff, v.exists_literal_iff]

theorem told_iff_of_place {e : SpecFault} {owner field : Value} {sentence : String → String}
    (same : e.message = (placeOf owner field).map sentence) :
    e.Told ↔ owner.Writable ∧ field.Writable := by
  rw [Told, same, map_succeeds_iff, exists_placeOf_iff]

/-- **A fault is told** exactly if what it quotes can be written. -/
theorem told_iff {e : SpecFault} : e.Told ↔ ∀ v, e.Quotes v → v.Writable := by
  cases e with
  | typeName v =>
    rw [told_iff_of_literal rfl]
    exact ⟨by rintro writable _ ⟨⟩; exact writable, fun each => each v (.typeName v)⟩
  | fieldName v =>
    rw [told_iff_of_literal rfl]
    exact ⟨by rintro writable _ ⟨⟩; exact writable, fun each => each v (.fieldName v)⟩
  | typeToken owner field v =>
    rw [told_iff_of_literal rfl]
    exact ⟨by rintro writable _ ⟨⟩; exact writable, fun each => each v (.typeToken owner field v)⟩
  | argumentToken owner field arg v =>
    rw [told_iff_of_literal rfl]
    exact ⟨by rintro writable _ ⟨⟩; exact writable, fun each => each v (.argumentToken owner field arg v)⟩
  | noDefinition owner field =>
    rw [told_iff_of_place rfl]
    refine ⟨?_, fun each => ⟨each _ (.definitionOwner _ _), each _ (.definitionField _ _)⟩⟩
    rintro ⟨writable, writableField⟩ _ (_ | _)
    · exact writable
    · exact writableField
  | noType owner field =>
    rw [told_iff_of_place rfl]
    refine ⟨?_, fun each => ⟨each _ (.typeOwner _ _), each _ (.typeField _ _)⟩⟩
    rintro ⟨writable, writableField⟩ _ (_ | _)
    · exact writable
    · exact writableField
  | _ => exact iff_of_true ⟨_, rfl⟩ (by rintro v ⟨⟩)

/-- **A fault that a check finds.** The other two come up where something of the wrong kind is used before
it has been checked. -/
def Checked : SpecFault → Prop
  | .noTable _ | .unkeyable _ => False
  | _ => True

/-- **A fault that is reported**: a check finds it, and it is told. -/
def Reported (e : SpecFault) : Prop := e.Checked ∧ e.Told

/-- **A fault that cannot be told**, since it quotes a value that cannot be written. What is raised instead
is that a number has too many digits. -/
structure Untold (e : SpecFault) : Prop where
  raised : e.message = .error .tooManyDigits
  quotes : ∃ v, e.Quotes v ∧ ¬ v.Writable

theorem told_or_untold (e : SpecFault) : e.Told ∨ e.Untold := by
  cases outcome : e.message with
  | ok sentence => exact .inl ⟨sentence, outcome⟩
  | error f =>
    refine .inr ⟨outcome, ?_⟩
    by_contra writable
    push Not at writable
    obtain ⟨sentence, told⟩ := told_iff.2 writable
    cases outcome.symm.trans told

theorem Checked.reported_or_untold {e : SpecFault} (checked : e.Checked) : e.Reported ∨ e.Untold :=
  e.told_or_untold.imp_left fun told => ⟨checked, told⟩

/-- **A fault in a value**: a check finds it, and nothing is quoted but parts of that value and texts. -/
structure Inside (e : SpecFault) (w : Value) : Prop where
  checked : e.Checked
  quotes : ∀ v, e.Quotes v → Value.PartOf v w ∨ ∃ s, v = .text s

theorem Inside.of_texts {e : SpecFault} {w : Value} (checked : e.Checked)
    (texts : ∀ v, e.Quotes v → ∃ s, v = .text s) : e.Inside w :=
  ⟨checked, fun v quotes => .inr (texts v quotes)⟩

theorem Inside.mono {e : SpecFault} {w w' : Value} (inside : e.Inside w) (part : Value.PartOf w w') :
    e.Inside w' :=
  ⟨inside.checked, fun v quotes => (inside.quotes v quotes).imp_left (·.trans part)⟩

/-- It is reported if all of the value can be written. -/
theorem Inside.reported {e : SpecFault} {w : Value} (inside : e.Inside w) (writable : w.Writable) :
    e.Reported := by
  refine ⟨inside.checked, told_iff.2 fun v quotes => ?_⟩
  rcases inside.quotes v quotes with part | ⟨s, rfl⟩
  · exact fun n inner => writable n (inner.trans part)
  · exact Value.writable_text s

theorem OfField.checked {e : SpecFault} (ofField : e.OfField) : e.Checked := by
  cases e <;> first | exact ofField.elim | trivial

end SpecFault

namespace Registry

/-! ## What tables say -/

/-- **What arguments are declared**: none, or those of an object from names to tokens of native types. -/
inductive Expects : Value → Contract → Prop where
  | none : Expects .null []
  | arguments {tokens : Table Value} {contract : Contract}
      (each : tokens.Entrywise (fun _ token d => Descriptor.Denotes token d ∧ d.isNative = true) contract) :
      Expects (.object tokens) contract

/-- **What a definition says of a field** under its name. The host tells which values are resolvers; a key
that is absent counts as null. -/
inductive Defines (host : Value → Option Resolver) (name : String) : Value → Field → Prop where
  | field {fs : Table Value} {type : Value} {f : Field} (named : FieldName name) (same : f.name = name)
      (typed : fs.get? "type" = some type) (denotes : Descriptor.Denotes type f.type)
      (resolves : host ((fs.get? "resolve").getD .null) = some f.resolve)
      (expects : Expects ((fs.get? "expect").getD .null) f.expect)
      (described : f.description = (fs.get? "description").getD .null) : Defines host name (.object fs) f

/-- **What an entry says of a type** under its name: it has the fields of a table of definitions. -/
inductive DefinesType (host : Value → Option Resolver) (name : String) : Value → Chunk → Prop where
  | type {fs : Table Value} {chunk : Chunk} (named : Draft.TypeName name)
      (each : fs.Entrywise (Defines host) chunk) : DefinesType host name (.object fs) chunk

/-! ## Reading entry by entry -/

namespace Draft

/-- A field from a definition. -/
def readDefinition (host : Value → Option Resolver) (owner name : String) :
    Value → Except SpecFault Field
  | .object fs =>
    match Table.get? fs "type" with
    | none => .error (.noType (.text owner) (.text name))
    | some type =>
      readField owner (.text name)
        { type, resolve := host ((Table.get? fs "resolve").getD .null)
          expect := (Table.get? fs "expect").getD .null
          description := (Table.get? fs "description").getD .null }
  | _ => .error (.noDefinition (.text owner) (.text name))

/-- The fields of an owner from a table of definitions. -/
def readFields (host : Value → Option Resolver) (owner : String) : Value → Except SpecFault Chunk
  | .object fs => Table.readEach (readDefinition host owner) fs
  | v => .error (.noTable v.kind)

/-- The fields of a type from its entry. -/
def readType (host : Value → Option Resolver) (name : String) (fields : Value) :
    Except SpecFault Chunk :=
  match readTypeName (.text name) with
  | .error e => .error e
  | .ok name => readFields host name fields

variable {host : Value → Option Resolver}

/-- A definition under a new name of a chunk that there is: the draft has no say in how it is read. -/
theorem addDefinition_eq {d : Draft} {owner : String}
    (known : owner = rootName ∨ d.types.has owner = true) {name : String}
    (fresh : (d.chunk owner).has name = false) (definition : Value) :
    d.addDefinition host (.text owner) (.text name) definition =
      match readDefinition host owner name definition with
      | .error e => (.error e, d)
      | .ok f => (.ok (), d.setField owner name f) := by
  have opens : d.openChunk (.text owner) = (.ok owner, d) := by
    have there : (decide (owner = rootName) || d.types.has owner) = true := by simpa using known
    simp only [openChunk, Value.unkeyable?, there, if_true]
  have news (definition : Definition) : d.readNew owner (.text name) definition =
      (readField owner (.text name) definition).map fun f => (name, f) := by
    simp [readNew, Value.unkeyable?, fresh]
  cases definition with
  | object fs =>
    cases typed : Table.get? fs "type" with
    | none => simp only [addDefinition, readDefinition, typed]
    | some type =>
      simp only [addDefinition, readDefinition, typed, addField_eq, opens, news]
      cases readField owner (.text name) _ <;> rfl
  | _ => rfl

/-- **A place for one chunk** in a draft, of which everything else is fixed. -/
structure Site (owner : String) (site : Chunk → Draft) : Prop where
  known : ∀ chunk, owner = rootName ∨ (site chunk).types.has owner = true
  chunk : ∀ chunk, (site chunk).chunk owner = chunk
  setField : ∀ chunk name f, (site chunk).setField owner name f = site (chunk.set name f)

theorem site_queries (types : Table Chunk) : Site rootName fun root => ⟨types, root⟩ where
  known _ := .inl rfl
  chunk _ := by simp [Draft.chunk]
  setField _ _ _ := by simp [Draft.setField]

/-- The type that has been declared last. -/
theorem site_last {owner : String} (custom : owner ≠ rootName) {types : Table Chunk}
    (absent : types.has owner = false) (root : Chunk) :
    Site owner fun chunk => ⟨types ++ [(owner, chunk)], root⟩ := by
  simp only [← Table.set_of_not_has types _ absent]
  refine ⟨fun chunk => .inr (Table.has_set_self ..), fun chunk => ?_, fun chunk name f => ?_⟩
  · simp [Draft.chunk, custom]
  · simp [Draft.setField, Draft.chunk, custom, Table.set_set]

/-- **The fields of a table**, under new names, go behind those of their chunk. -/
theorem Site.addDefinitions {owner : String} {site : Chunk → Draft} (at_ : Site owner site)
    {chunk : Chunk} {fields : Table Value} (once : (chunk.keys ++ fields.keys).Nodup) :
    Registry.addDefinitions host owner fields (site chunk) =
      (Table.readEach (readDefinition host owner) fields).map fun new => site (chunk ++ new) := by
  -- By the fields that are still to be read. The chunk holds those before them, under other names.
  induction fields generalizing chunk with
  | nil => simp [Registry.addDefinitions, Table.readEach, Except.map]
  | cons e rest ih =>
    obtain ⟨name, definition⟩ := e
    have fresh : chunk.has name = false := by
      rw [Table.has_eq_false_iff]
      intro mem
      exact (List.nodup_append.1 once).2.2 name mem name List.mem_cons_self rfl
    have reads := @addDefinition_eq host _ _ (at_.known chunk) name (by rw [at_.chunk]; exact fresh)
      definition
    rw [Registry.addDefinitions, reads, Table.readEach]
    cases readDefinition host owner name definition with
    | error e => rfl
    | ok f =>
      simp only [at_.setField, Table.set_of_not_has chunk f fresh]
      rw [ih (by simpa [Table.keys] using once)]
      cases Table.readEach (readDefinition host owner) rest <;> simp [Except.map]

/-- **The types of a table**, under new names, go behind those of a draft. -/
theorem addTypes_eq {types : Table Chunk} (root : Chunk) {table : Table Value}
    (once : (types.keys ++ table.keys).Nodup) (onceEach : ∀ e ∈ table, e.2.fields.keys.Nodup) :
    addTypes host table ⟨types, root⟩ =
      (Table.readEach (readType host) table).map fun new => ⟨types ++ new, root⟩ := by
  -- As for fields. The type that has just been declared is the last one while its fields are read.
  induction table generalizing types with
  | nil => simp [addTypes, Table.readEach, Except.map]
  | cons e rest ih =>
    obtain ⟨name, fields⟩ := e
    have absent : types.has name = false := by
      rw [Table.has_eq_false_iff]
      intro mem
      exact (List.nodup_append.1 once).2.2 name mem name List.mem_cons_self rfl
    obtain ⟨onceHere, onceBelow⟩ := List.forall_mem_cons.1 onceEach
    rw [addTypes, Table.readEach, addType, readType]
    cases reads : readTypeName (.text name) with
    | error e => rfl
    | ok name' =>
      obtain ⟨same, named⟩ := readTypeName_eq_ok_iff.1 reads
      cases same
      simp only [declare_of_absent (d := ⟨types, root⟩) absent]
      cases fields with
      | object fs =>
        have inside := @Site.addDefinitions host _ _ (site_last named.notRoot absent root) [] fs onceHere
        simp only [opened, inside, readFields]
        cases Table.readEach (readDefinition host name) fs with
        | error e => rfl
        | ok chunk =>
          simp only [Except.map, List.nil_append]
          rw [ih (by simpa [Table.keys] using once) onceBelow]
          cases Table.readEach (readType host) rest <;> simp [Except.map]
      | _ => rfl

/-! ## Entries that can be read -/

theorem readExpect_eq_ok_iff {owner field : String} {expect : Value} {contract : Contract} :
    readExpect owner field expect = .ok contract ↔ Expects expect contract := by
  have read {tokens : Table Value} := calc
    readContract owner field tokens = .ok contract
      ↔ Table.readEach (readArgument owner field) tokens = .ok contract := by rw [readContract_eq]
    _ ↔ tokens.Entrywise (fun _ token d => Descriptor.Denotes token d ∧ d.isNative = true) contract := by
      simp only [Table.readEach_eq_ok_iff, readArgument_eq_ok_iff]
  constructor
  · intro reads
    unfold readExpect at reads
    split at reads
    · cases reads
      exact .none
    · exact .arguments (read.1 reads)
    · cases reads
  · rintro (_ | each)
    · rfl
    · exact read.2 each

/-- **A definition is read** exactly if it says what the field is. -/
theorem readDefinition_eq_ok_iff {owner name : String} {definition : Value} {f : Field} :
    readDefinition host owner name definition = .ok f ↔ Defines host name definition f := by
  constructor
  · intro reads
    unfold readDefinition at reads
    split at reads
    · split at reads
      · cases reads
      · rename_i fs type typed
        obtain ⟨named, same, denotes, resolves, expects, describes⟩ := readField_eq_ok_iff.1 reads
        exact .field (readFieldName_eq_ok_iff.1 named).2 same typed denotes resolves
          (readExpect_eq_ok_iff.1 expects) describes
    · cases reads
  · rintro ⟨named, same, typed, denotes, resolves, expects, describes⟩
    simp only [readDefinition, typed]
    exact readField_eq_ok_iff.2 ⟨readFieldName_eq_ok_iff.2 ⟨rfl, named⟩, same, denotes, resolves,
      readExpect_eq_ok_iff.2 expects, describes⟩

/-- **The entry of a type is read** exactly if it says what the type is. -/
theorem readType_eq_ok_iff {name : String} {fields : Value} {chunk : Chunk} :
    readType host name fields = .ok chunk ↔ DefinesType host name fields chunk := by
  have read {fs : Table Value} :
      Table.readEach (readDefinition host name) fs = .ok chunk ↔ fs.Entrywise (Defines host) chunk := by
    simp only [Table.readEach_eq_ok_iff, readDefinition_eq_ok_iff]
  constructor
  · intro reads
    unfold readType at reads
    split at reads
    · cases reads
    · rename_i named
      obtain ⟨same, named⟩ := readTypeName_eq_ok_iff.1 named
      cases same
      unfold readFields at reads
      split at reads
      · exact .type named (read.1 reads)
      · cases reads
  · rintro ⟨named, each⟩
    simp only [readType, readTypeName_eq_ok_iff.2 ⟨rfl, named⟩, readFields, read.2 each]

/-! ## Faults -/

/-- What is quoted of arguments is a token. -/
theorem quotes_of_readContract {owner field : String} {fs : Table Value} {e : SpecFault}
    (fails : readContract owner field fs = .error e) {v : Value} (quotes : e.Quotes v) : ∃ a ∈ fs, v = a.2 := by
  rw [readContract_eq] at fails
  obtain ⟨a, mem, unread⟩ := Table.exists_of_readEach_eq_error fails
  unfold readArgument at unread
  split at unread
  · cases unread
    cases quotes
    exact ⟨a, mem, rfl⟩
  · split at unread
    · cases unread
      cases quotes
      exact ⟨a, mem, rfl⟩
    · split at unread
      · cases unread
        cases quotes
      · cases unread

/-- What is quoted of a field is its name, its type, or the token of an argument. -/
theorem quotes_of_readField {owner : String} {name : Value} {definition : Definition} {e : SpecFault}
    (fails : readField owner name definition = .error e) {v : Value} (quotes : e.Quotes v) :
    v = name ∨ v = definition.type ∨ ∃ fs, definition.expect = .object fs ∧ ∃ a ∈ fs, v = a.2 := by
  unfold readField at fails
  split at fails
  · rename_i e' unread
    cases fails
    unfold readFieldName at unread
    split at unread
    · split at unread
      · cases unread
        cases quotes
        exact .inl rfl
      · cases unread
    · cases unread
      cases quotes
      exact .inl rfl
  · split at fails
    · cases fails
      cases quotes
      exact .inr (.inl rfl)
    · split at fails
      · cases fails
        cases quotes
        exact .inr (.inl rfl)
      · cases fails
        cases quotes
      · have unread := error_of_map fails
        unfold readExpect at unread
        split at unread
        · cases unread
        · rename_i fs same
          exact .inr (.inr ⟨fs, same, quotes_of_readContract unread quotes⟩)
        · cases unread
          cases quotes

/-- A definition as it stands in a table of a host. -/
def Definition.ofTable (host : Value → Option Resolver) (fs : Table Value) (type : Value) : Definition :=
  { type, resolve := host ((Table.get? fs "resolve").getD .null)
    expect := (Table.get? fs "expect").getD .null
    description := (Table.get? fs "description").getD .null }

/-- **Whatever is wrong with a field of a host table** is in its definition. -/
theorem inside_of_readField {owner name : String} {fs : Table Value} {type : Value}
    (typed : Table.get? fs "type" = some type) {e : SpecFault}
    (fails : readField owner (.text name) (Definition.ofTable host fs type) = .error e) :
    e.Inside (.object fs) := by
  refine ⟨(ofField_of_readField fails).checked, fun v quotes => ?_⟩
  rcases quotes_of_readField fails quotes with rfl | rfl | ⟨tokens, expects, a, mem, rfl⟩
  · exact .inr ⟨name, rfl⟩
  · exact .inl (.field (Table.mem_of_get? typed) .self)
  · -- The arguments stand under their key, since a definition without it expects nothing.
    left
    have declared : Table.get? fs "expect" = some (.object tokens) := by
      change (Table.get? fs "expect").getD .null = .object tokens at expects
      cases found : Table.get? fs "expect" with
      | some w =>
        rw [found] at expects
        exact congrArg some expects
      | none =>
        rw [found] at expects
        cases expects
    exact .field (Table.mem_of_get? declared) (.field mem .self)

theorem inside_noType (owner name : String) (w : Value) :
    (SpecFault.noType (.text owner) (.text name)).Inside w := by
  refine .of_texts trivial ?_
  rintro v (_ | _)
  · exact ⟨_, rfl⟩
  · exact ⟨_, rfl⟩

theorem inside_noDefinition (owner name : String) (w : Value) :
    (SpecFault.noDefinition (.text owner) (.text name)).Inside w := by
  refine .of_texts trivial ?_
  rintro v (_ | _)
  · exact ⟨_, rfl⟩
  · exact ⟨_, rfl⟩

theorem inside_of_readTypeName {name : String} {e : SpecFault}
    (fails : readTypeName (.text name) = .error e) (w : Value) : e.Inside w := by
  unfold readTypeName at fails
  simp only at fails
  split at fails
  · cases fails
    refine .of_texts trivial ?_
    rintro v ⟨⟩
    exact ⟨_, rfl⟩
  · split at fails
    · cases fails
      exact .of_texts trivial (by rintro v ⟨⟩)
    · split at fails
      · cases fails
        exact .of_texts trivial (by rintro v ⟨⟩)
      · cases fails

theorem inside_of_undefinedIn {types : Table Chunk} {owner : String} {chunk : Chunk} {e : SpecFault}
    (fails : undefinedIn types owner chunk = .error e) (w : Value) : e.Inside w := by
  induction chunk with
  | nil => cases fails
  | cons entry rest ih =>
    rw [undefinedIn] at fails
    split at fails
    · cases fails
      exact .of_texts trivial (by rintro v ⟨⟩)
    · exact ih fails

theorem inside_of_undefinedInAll {types chunks : Table Chunk} {e : SpecFault}
    (fails : undefinedInAll types chunks = .error e) (w : Value) : e.Inside w := by
  induction chunks with
  | nil => cases fails
  | cons c rest ih =>
    rw [undefinedInAll] at fails
    split at fails
    · rename_i unfit
      cases fails
      exact inside_of_undefinedIn unfit w
    · exact ih fails

/-- A draft that is not built has a type that is not declared. -/
theorem inside_of_build {d : Draft} {check : Bool} {e : SpecFault}
    (fails : d.build check = .error e) (w : Value) : e.Inside w := by
  unfold build at fails
  split at fails
  · exact inside_of_undefinedInAll (error_of_map fails) w
  · cases fails

end Draft

/-! ## Whole tables -/

/-- **Tables proper**: no key is repeated among the types, the fields of a type, or the queries. -/
structure Distinct (T Q : Table Value) : Prop where
  types : T.keys.Nodup
  fields : ∀ e ∈ T, e.2.fields.keys.Nodup
  queries : Q.keys.Nodup

/-- All definitions of fields, each under its name. -/
def definitionsOf (T Q : Table Value) : Table Value := Q ++ T.flatMap fun e => e.2.fields

/-- **Tables that are in order.** Every type has a name that a type may have, and every definition says what
its field is. If references are checked, the type of every field is native or one of the types. -/
structure Sound (host : Value → Option Resolver) (T Q : Table Value) (check : Bool) : Prop where
  named : ∀ name ∈ T.keys, Draft.TypeName name
  defined : ∀ e ∈ definitionsOf T Q, ∃ f, Defines host e.1 e.2 f
  declared : check = true → ∀ e ∈ definitionsOf T Q, ∀ f, Defines host e.1 e.2 f →
    f.type.isNative = true ∨ f.type.name ∈ T.keys

variable {host : Value → Option Resolver} {T Q : Table Value} {check : Bool}

/-- Tables proper are read entry by entry. -/
theorem ofTables_eq (once : Distinct T Q) : ofTables host (.object T) (.object Q) check =
    match Table.readEach (Draft.readType host) T with
    | .error e => .error e
    | .ok types =>
      match Table.readEach (Draft.readDefinition host rootName) Q with
      | .error e => .error e
      | .ok root => Draft.build ⟨types, root⟩ check := by
  have typed := @Draft.addTypes_eq host [] [] T once.types once.fields
  have asked (types : Table Chunk) := @Draft.Site.addDefinitions host _ _ (Draft.site_queries types) [] Q
    once.queries
  rw [ofTables]
  simp only [Value.isNull, Bool.false_eq_true, if_false, typed]
  cases Table.readEach (Draft.readType host) T with
  | error e => rfl
  | ok types =>
    simp only [Except.map, List.nil_append, asked]
    cases Table.readEach (Draft.readDefinition host rootName) Q <;> rfl

/-- **A registry from tables** has what they say, and its references are in order if they are checked. -/
theorem ofTables_eq_ok_iff (once : Distinct T Q) {r : Registry} :
    ofTables host (.object T) (.object Q) check = .ok r ↔
      T.Entrywise (DefinesType host) r.types ∧ Q.Entrywise (Defines host) r.root ∧
        (check = true → r.Closed) := by
  have readTypes (types : Table Chunk) : Table.readEach (Draft.readType host) T = .ok types ↔
      T.Entrywise (DefinesType host) types := by
    simp only [Table.readEach_eq_ok_iff, Draft.readType_eq_ok_iff]
  have readQueries (root : Chunk) : Table.readEach (Draft.readDefinition host rootName) Q = .ok root ↔
      Q.Entrywise (Defines host) root := by
    simp only [Table.readEach_eq_ok_iff, Draft.readDefinition_eq_ok_iff]
  rw [ofTables_eq once]
  constructor
  · intro built
    split at built
    · cases built
    · rename_i types typed
      split at built
      · cases built
      · rename_i root asked
        obtain ⟨rfl, closed⟩ := Draft.build_eq_ok_iff.1 built
        exact ⟨(readTypes _).1 typed, (readQueries _).1 asked, closed⟩
  · rintro ⟨typed, asked, closed⟩
    simp only [(readTypes _).2 typed, (readQueries _).2 asked]
    exact Draft.build_eq_ok_iff.2 ⟨rfl, closed⟩

/-! ## Tables and registries -/

/-- A definition defines one thing of a field. -/
theorem Defines.unique {name : String} {definition : Value} {f f' : Field}
    (one : Defines host name definition f) (other : Defines host name definition f') : f = f' := by
  have read := (@Draft.readDefinition_eq_ok_iff host rootName _ _ _).2 one
  rw [Draft.readDefinition_eq_ok_iff.2 other] at read
  exact (Except.ok.inj read).symm

section

variable {r : Registry} (typed : T.Entrywise (DefinesType host) r.types)
  (asked : Q.Entrywise (Defines host) r.root)
include typed asked

/-- Every definition gives a field of a registry. -/
theorem exists_field {x : String × Value} (mem : x ∈ definitionsOf T Q) :
    ∃ f, Defines host x.1 x.2 f ∧ ∃ c ∈ (rootName, r.root) :: r.types, (x.1, f) ∈ c.2 := by
  rcases List.mem_append.1 mem with query | field
  · obtain ⟨f, defines, there⟩ := asked.exists_of_mem_left query
    exact ⟨f, defines, _, List.mem_cons_self, there⟩
  · obtain ⟨⟨name, fields⟩, there, below⟩ := List.mem_flatMap.1 field
    obtain ⟨chunk, ⟨named, each⟩, declared⟩ := typed.exists_of_mem_left there
    obtain ⟨f, defines, inside⟩ := each.exists_of_mem_left below
    exact ⟨f, defines, _, List.mem_cons_of_mem _ declared, inside⟩

end

/-- A query with an argument. -/
def people : Table Value := [
  ("people", .object [("expect", .object [("near", .text "Number!")]), ("type", .list [.text "Person"]),
    ("resolve", .text "people"), ("description", .text "Everyone")])]

/-- Texts stand for resolvers. -/
def byName : Value → Option Resolver
  | .text name => some (Example.required name)
  | _ => none

end Registry

end CallTree
