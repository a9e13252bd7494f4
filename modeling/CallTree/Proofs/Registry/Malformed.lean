/-
# CallTree.Proofs.Registry.Malformed — what can be wrong with host tables.

Host tables may be any values. A check finds whatever is wrong with a definition in them, down to the last token
(`Registry.inside_of_addDefinitions`), and reports it unless it would have to quote a number of too many digits.
The tables themselves are not looked at before they are asked for their entries, and neither is the table of
definitions of a type. If one of these is no table, that is a fault of its own kind, which no check finds
(`Registry.Unshaped`). There is no other such fault (`Registry.malformed_exact`).
-/
import CallTree.Proofs.Json.RoundTrip
import CallTree.Proofs.Registry.Tables

namespace CallTree.Registry

variable {host : Value → Option Resolver}

/-! ## Definitions -/

namespace Draft

theorem inside_of_openChunk {d d' : Draft} {owner : String} {e : SpecFault}
    (fails : d.openChunk (.text owner) = (.error e, d')) (w : Value) : e.Inside w := by
  simp only [openChunk, Value.unkeyable?] at fails
  split at fails
  · cases fails
  · split at fails
    · rename_i unread
      cases fails
      exact inside_of_readTypeName unread w
    · cases fails

theorem inside_of_readNew {d : Draft} {owner name : String} {fs : Table Value} {type : Value}
    (typed : Table.get? fs "type" = some type) {e : SpecFault}
    (fails : d.readNew owner (.text name) (Definition.ofTable host fs type) = .error e) :
    e.Inside (.object fs) := by
  simp only [readNew, Value.unkeyable?] at fails
  split at fails
  · cases fails
    exact .of_texts trivial (by rintro v ⟨⟩)
  · exact inside_of_readField typed (error_of_map fails)

/-- Whatever is wrong with a definition under a name is in it. -/
theorem inside_of_addDefinition {d d' : Draft} {owner name : String} {definition : Value} {e : SpecFault}
    (fails : d.addDefinition host (.text owner) (.text name) definition = (.error e, d')) :
    e.Inside definition := by
  unfold addDefinition at fails
  split at fails
  · split at fails
    · cases fails
      exact inside_noType owner name _
    · rename_i type typed
      rw [addField_eq] at fails
      split at fails
      · rename_i unopened
        cases fails
        exact inside_of_openChunk unopened _
      · split at fails
        · rename_i unread
          cases fails
          exact inside_of_readNew typed unread
        · cases fails
  · cases fails
    exact inside_noDefinition owner name _

end Draft

theorem inside_of_addDefinitions {owner : String} {fields : Table Value} {d : Draft} {e : SpecFault}
    (fails : addDefinitions host owner fields d = .error e) : ∃ x ∈ fields, e.Inside x.2 := by
  induction fields generalizing d with
  | nil => cases fails
  | cons x rest ih =>
    rw [addDefinitions] at fails
    split at fails
    · rename_i unread
      cases fails
      exact ⟨x, List.mem_cons_self, Draft.inside_of_addDefinition unread⟩
    · obtain ⟨y, mem, inside⟩ := ih fails
      exact ⟨y, List.mem_cons_of_mem _ mem, inside⟩

/-! ## Types -/

/-- Add one type of a host table with its fields. -/
def addEntry (host : Value → Option Resolver) (d : Draft) (name : String) (fields : Value) :
    Except SpecFault Draft :=
  match Draft.readTypeName (.text name) with
  | .error e => .error e
  | .ok name =>
    match fields with
    | .object fs => addDefinitions host name fs (d.declare name)
    | v => .error (.noTable v.kind)

theorem addTypes_cons (name : String) (fields : Value) (rest : Table Value) (d : Draft) :
    addTypes host ((name, fields) :: rest) d = addEntry host d name fields >>= addTypes host rest := by
  rw [addTypes, addEntry, Draft.addType]
  cases reads : Draft.readTypeName (.text name) with
  | error e => rfl
  | ok name' =>
    obtain ⟨same, -⟩ := Draft.readTypeName_eq_ok_iff.1 reads
    cases same
    cases fields with
    | object fs =>
      simp only
      cases addDefinitions host name fs (d.declare name) <;> rfl
    | _ => rfl

/-- **What no check finds of a type** is that its definitions are no table, under a name that a type may have. -/
theorem addEntry_inv {d : Draft} {name : String} {fields : Value} {e : SpecFault}
    (fails : addEntry host d name fields = .error e) :
    e.Inside fields ∨ Draft.TypeName name ∧ (∀ fs, fields ≠ .object fs) ∧ e = .noTable fields.kind := by
  unfold addEntry at fails
  split at fails
  · rename_i unnamed
    cases fails
    exact .inl (Draft.inside_of_readTypeName unnamed _)
  · rename_i reads
    obtain ⟨same, named⟩ := Draft.readTypeName_eq_ok_iff.1 reads
    cases same
    split at fails
    · obtain ⟨x, mem, inside⟩ := inside_of_addDefinitions fails
      exact .inl (inside.mono (.field mem .self))
    · rename_i noTable
      cases fails
      exact .inr ⟨named, noTable, rfl⟩

theorem addEntry_of_noTable (d : Draft) {name : String} (named : Draft.TypeName name) {fields : Value}
    (noTable : ∀ fs, fields ≠ .object fs) : addEntry host d name fields = .error (.noTable fields.kind) := by
  rw [addEntry, Draft.readTypeName_eq_ok_iff.2 ⟨rfl, named⟩]
  cases fields with
  | object fs => exact absurd rfl (noTable fs)
  | _ => rfl

/-- **The first type at fault**: the types in front of it have been added. -/
theorem addTypes_eq_error_iff {T : Table Value} {d : Draft} {e : SpecFault} :
    addTypes host T d = .error e ↔ ∃ front name fields back d', T = front ++ (name, fields) :: back ∧
      addTypes host front d = .ok d' ∧ addEntry host d' name fields = .error e := by
  induction T generalizing d with
  | nil => simp [addTypes]
  | cons x rest ih =>
    obtain ⟨name, fields⟩ := x
    rw [addTypes_cons, bind_eq_error_iff]
    simp only [ih]
    constructor
    · rintro (here | ⟨d', adds, front, name', fields', back, d'', rfl, before, fails⟩)
      · exact ⟨[], name, fields, rest, d, rfl, rfl, here⟩
      · refine ⟨(name, fields) :: front, name', fields', back, d'', rfl, ?_, fails⟩
        rw [addTypes_cons, bind_eq_ok_iff]
        exact ⟨d', adds, before⟩
    · rintro ⟨front, name', fields', back, d'', same, before, fails⟩
      cases front with
      | nil =>
        cases before
        cases same
        exact .inl fails
      | cons first front =>
        cases same
        rw [addTypes_cons, bind_eq_ok_iff] at before
        obtain ⟨d', adds, before⟩ := before
        exact .inr ⟨d', adds, front, name', fields', back, d'', rfl, before, fails⟩

/-! ## Whole tables -/

/-- Add the queries of a host to a draft, and build the registry. -/
def addQueries (host : Value → Option Resolver) (check : Bool) (queries : Value) (d : Draft) :
    Except SpecFault Registry :=
  match queries with
  | .object Q => addDefinitions host rootName Q d >>= fun d => d.build check
  | v => .error (.noTable v.kind)

variable {types queries : Value} {check : Bool}

theorem ofTables_object {T : Table Value} (asked : queries.isNull = false) :
    ofTables host (.object T) queries check = addTypes host T {} >>= addQueries host check queries := by
  have given : (Value.object T).isNull = false := rfl
  simp only [ofTables, given, asked, Bool.false_eq_true, if_false]
  cases addTypes host T {} with
  | error e => rfl
  | ok d =>
    cases queries with
    | object Q =>
      simp only [bind, Except.bind, addQueries]
      cases addDefinitions host rootName Q d <;> rfl
    | _ => rfl

theorem ofTables_of_noTable (given : types.isNull = false) (asked : queries.isNull = false)
    (noTable : ∀ T, types ≠ .object T) :
    ofTables host types queries check = .error (.noTable types.kind) := by
  simp only [ofTables, given, asked, Bool.false_eq_true, if_false]

/-- Types or queries that are not there are found missing. -/
theorem inside_of_absent (absent : types.isNull = true ∨ queries.isNull = true) {e : SpecFault}
    (fails : ofTables host types queries check = .error e) (w : Value) : e.Inside w := by
  unfold ofTables at fails
  split at fails
  · cases fails
    exact .of_texts trivial (by rintro v ⟨⟩)
  · rename_i given
    rw [if_pos (absent.resolve_left given)] at fails
    cases fails
    exact .of_texts trivial (by rintro v ⟨⟩)

theorem addQueries_inv {d : Draft} {e : SpecFault} (fails : addQueries host check queries d = .error e) :
    e.Inside queries ∨ (∀ Q, queries ≠ .object Q) ∧ e = .noTable queries.kind := by
  unfold addQueries at fails
  split at fails
  · rcases bind_eq_error_iff.1 fails with unread | ⟨d', -, unbuilt⟩
    · obtain ⟨x, mem, inside⟩ := inside_of_addDefinitions unread
      exact .inl (inside.mono (.field mem .self))
    · exact .inl (Draft.inside_of_build unbuilt _)
  · rename_i noTable
    cases fails
    exact .inr ⟨noTable, rfl⟩

/-- Types that are accepted by themselves, before anything is asked of the queries. -/
def Accepts (host : Value → Option Resolver) (T : Table Value) : Prop :=
  ∃ r, ofTables host (.object T) (.object []) false = .ok r

theorem accepts_iff {T : Table Value} : Accepts host T ↔ ∃ d, addTypes host T {} = .ok d := by
  have asked : (Value.object []).isNull = false := rfl
  simp only [Accepts, ofTables_object asked, bind_eq_ok_iff]
  exact ⟨fun ⟨_, d, adds, _⟩ => ⟨d, adds⟩, fun ⟨d, adds⟩ => ⟨_, d, adds, rfl⟩⟩

/-- **What is asked for its entries and is no table**: the types, the definitions of a type that comes behind
others that are accepted, or the queries behind types that are accepted. -/
inductive Unshaped (host : Value → Option Resolver) : Value → Value → Value → Prop where
  | types {types queries : Value} (given : types.isNull = false) (asked : queries.isNull = false)
      (noTable : ∀ T, types ≠ .object T) : Unshaped host types queries types
  | fields {front back : Table Value} {name : String} {fields queries : Value}
      (asked : queries.isNull = false) (before : Accepts host front) (named : Draft.TypeName name)
      (noTable : ∀ fs, fields ≠ .object fs) :
      Unshaped host (.object (front ++ (name, fields) :: back)) queries fields
  | queries {T : Table Value} {queries : Value} (asked : queries.isNull = false) (before : Accepts host T)
      (noTable : ∀ Q, queries ≠ .object Q) : Unshaped host (.object T) queries queries

/-- **Whatever is wrong with host tables** is in one of them, or something is no table. -/
theorem ofTables_inv {e : SpecFault} (fails : ofTables host types queries check = .error e) :
    (e.Inside types ∨ e.Inside queries) ∨ ∃ v, Unshaped host types queries v ∧ e = .noTable v.kind := by
  by_cases absent : types.isNull = true ∨ queries.isNull = true
  · exact .inl (.inl (inside_of_absent absent fails _))
  · rw [not_or, Bool.not_eq_true, Bool.not_eq_true] at absent
    obtain ⟨given, asked⟩ := absent
    by_cases table : ∃ T, types = .object T
    · obtain ⟨T, rfl⟩ := table
      rw [ofTables_object asked, bind_eq_error_iff] at fails
      rcases fails with unread | ⟨d, adds, unasked⟩
      · obtain ⟨front, name, fields, back, d, rfl, before, unfit⟩ := addTypes_eq_error_iff.1 unread
        rcases addEntry_inv unfit with inside | ⟨named, noTable, rfl⟩
        · exact .inl (.inl (inside.mono (.field (List.mem_append_right _ List.mem_cons_self) .self)))
        · exact .inr ⟨fields, .fields asked (accepts_iff.2 ⟨d, before⟩) named noTable, rfl⟩
      · rcases addQueries_inv unasked with inside | ⟨noTable, rfl⟩
        · exact .inl (.inr inside)
        · exact .inr ⟨queries, .queries asked (accepts_iff.2 ⟨d, adds⟩) noTable, rfl⟩
    · have noTable : ∀ T, types ≠ .object T := fun T same => table ⟨T, same⟩
      rw [ofTables_of_noTable given asked noTable] at fails
      cases fails
      exact .inr ⟨_, .types given asked noTable, rfl⟩

theorem Unshaped.fails {v : Value} (unshaped : Unshaped host types queries v) :
    ofTables host types queries check = .error (.noTable v.kind) := by
  cases unshaped with
  | types given asked noTable => exact ofTables_of_noTable given asked noTable
  | fields asked before named noTable =>
    obtain ⟨d, adds⟩ := accepts_iff.1 before
    rw [ofTables_object asked, bind_eq_error_iff, addTypes_eq_error_iff]
    exact .inl ⟨_, _, _, _, d, rfl, adds, addEntry_of_noTable d named noTable⟩
  | queries asked before noTable =>
    obtain ⟨d, adds⟩ := accepts_iff.1 before
    rw [ofTables_object asked, bind_eq_error_iff]
    refine .inr ⟨d, adds, ?_⟩
    cases queries with
    | object Q => exact absurd rfl (noTable Q)
    | _ => rfl

/-- What is wrong inside of tables is reported if they can be written. -/
theorem reported_of_inside {e : SpecFault} (inside : e.Inside types ∨ e.Inside queries)
    (writable : types.Writable) (writableQueries : queries.Writable) : e.Reported :=
  inside.elim (·.reported writable) (·.reported writableQueries)

theorem reported_or_untold_of_inside {e : SpecFault} (inside : e.Inside types ∨ e.Inside queries) :
    e.Reported ∨ e.Untold :=
  inside.elim (·.checked.reported_or_untold) (·.checked.reported_or_untold)

/-- Nothing is unshaped where tables stand, or nothing at all. -/
theorem not_unshaped
    (shaped : types.isNull = false → ∃ T, types = .object T ∧ ∀ x ∈ T, ∃ fs, x.2 = .object fs)
    (shapedQueries : queries.isNull = false → ∃ Q, queries = .object Q) {v : Value} :
    ¬ Unshaped host types queries v := by
  rintro (⟨given, asked, noTable⟩ | ⟨asked, before, named, noTable⟩ | ⟨asked, before, noTable⟩)
  · obtain ⟨T, rfl, -⟩ := shaped given
    exact noTable T rfl
  · obtain ⟨T, same, each⟩ := shaped rfl
    cases same
    obtain ⟨fs, table⟩ := each _ (List.mem_append_right _ List.mem_cons_self)
    exact noTable fs table
  · obtain ⟨Q, rfl⟩ := shapedQueries asked
    exact noTable Q rfl

/-- **Malformed tables.** Whatever values are given for the types and the queries: what is wrong with them is
reported, unless something is no table that is asked for its entries, or the report would have to quote a number
of too many digits. The first is the fault exactly if a value is `Unshaped`, and it is of the kind of that value.
So if the types, the definitions of each type and the queries are tables or absent as a whole, there is a
registry or a fault that is reported. The second cannot be with tables that can be written, and what is read from
a text can be written. -/
theorem malformed_exact (host : Value → Option Resolver) (types queries : Value) (check : Bool) :
    (∀ e, ofTables host types queries check = .error e →
      (e.Reported ∨ e.Untold ∨ ∃ k, e = .noTable k) ∧
        (types.Writable → queries.Writable → e.Reported ∨ ∃ k, e = .noTable k)) ∧
      (∀ k, ofTables host types queries check = .error (.noTable k) ↔
        ∃ v, Unshaped host types queries v ∧ v.kind = k) ∧
      ((types.isNull = false → ∃ T, types = .object T ∧ ∀ x ∈ T, ∃ fs, x.2 = .object fs) →
        (queries.isNull = false → ∃ Q, queries = .object Q) →
          (∃ r, ofTables host types queries check = .ok r) ∨
            ∃ e, ofTables host types queries check = .error e ∧ (e.Reported ∨ e.Untold) ∧
              (types.Writable → queries.Writable → e.Reported)) ∧
      ((∃ text, Json.read text = .ok types) → types.Writable) ∧
      ((∃ text, Json.read text = .ok queries) → queries.Writable) := by
  refine ⟨fun e fails => ?_, fun k => ⟨fun fails => ?_, ?_⟩, fun shaped shapedQueries => ?_,
    fun ⟨_, reads⟩ => Json.writable_of_read reads, fun ⟨_, reads⟩ => Json.writable_of_read reads⟩
  · rcases ofTables_inv fails with inside | ⟨v, -, rfl⟩
    · exact ⟨(reported_or_untold_of_inside inside).imp_right .inl,
        fun writable writableQueries => .inl (reported_of_inside inside writable writableQueries)⟩
    · exact ⟨.inr (.inr ⟨_, rfl⟩), fun _ _ => .inr ⟨_, rfl⟩⟩
  · rcases ofTables_inv fails with inside | ⟨v, unshaped, same⟩
    · exact inside.elim (fun inside => inside.checked.elim) (fun inside => inside.checked.elim)
    · exact ⟨v, unshaped, (SpecFault.noTable.inj same).symm⟩
  · rintro ⟨v, unshaped, rfl⟩
    exact unshaped.fails
  · cases outcome : ofTables host types queries check with
    | ok r => exact .inl ⟨r, rfl⟩
    | error e =>
      refine .inr ⟨e, rfl, ?_⟩
      have inside : e.Inside types ∨ e.Inside queries := by
        refine (ofTables_inv outcome).resolve_right ?_
        rintro ⟨v, unshaped, -⟩
        exact not_unshaped shaped shapedQueries unshaped
      exact ⟨reported_or_untold_of_inside inside, reported_of_inside inside⟩

/-- One type, of which the definition of a field has a number for its type. -/
def numbered : Table Value := [("Person", .object [("id", .object [("type", .int 5)])])]

/-- That is reported. Were the queries a list, they would not be asked for, since the type comes first. -/
theorem malformed_exact_numbered :
    (∃ e, ofTables byName (.object numbered) (.object []) true = .error e ∧ e.Reported) ∧
    ¬ ∃ v, Unshaped byName (.object numbered) (.list []) v ∧ v.kind = .list := by
  obtain ⟨-, -, reported, -⟩ := malformed_exact byName (.object numbered) (.object []) true
  obtain ⟨-, exact, -⟩ := malformed_exact byName (.object numbered) (.list []) true
  refine ⟨?_, fun unshaped => ?_⟩
  · have entries : ∀ x ∈ numbered, ∃ fs, x.2 = .object fs := by simp [numbered]
    have short : Decimal.Short 5 := by decide
    have writable : (Value.object numbered).Writable := by
      simpa [numbered, Value.writable_object_iff, Value.writable_int_iff] using short
    have writableQueries : (Value.object []).Writable := by simp [Value.writable_object_iff]
    rcases reported (fun _ => ⟨numbered, rfl, entries⟩) (fun _ => ⟨[], rfl⟩) with ⟨r, built⟩ | ⟨e, fails, -, told⟩
    · cases built
    · exact ⟨e, fails, told writable writableQueries⟩
  · have fails := (exact .list).2 unshaped
    cases fails

/-- **The definitions of a type may be a number**, and nobody looks: it is asked for its entries. -/
theorem unreported_number : ofTables byName (.object [("Person", .int 5)]) (.object []) true =
    .error (.noTable .int) ∧ ¬ (SpecFault.noTable .int).Reported := ⟨rfl, fun reported => reported.1⟩

end CallTree.Registry
