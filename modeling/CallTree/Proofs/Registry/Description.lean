/-
# CallTree.Proofs.Registry.Description — what the description of a registry is worth.

The description of a registry, with a resolver for each of its fields, is a pair of host tables. Read back,
they give the registry again, but for descriptions of fields that are not shown (`Registry.told`).

What is described can be told from the description. This holds of descriptions as values and of their
texts as well: both compare objects key by key, and strings as they are (`Faithful`). So two registries
are described alike if and only if they agree on their types, fields, arguments and shown descriptions,
in this order (`describe_related_iff`).
-/
import CallTree.Proofs.Json.Delimited
import CallTree.Proofs.Registry.Tables

namespace CallTree

/-! ## Comparing values -/

/-- **A way to compare values that is faithful to tokens and objects**: texts are compared as they are, a
list of one item by its item, and objects entry by entry. -/
structure Faithful (related : Value → Value → Prop) : Prop where
  text : ∀ s t, related (.text s) (.text t) ↔ s = t
  item : ∀ v w, related (.list [v]) (.list [w]) ↔ related v w
  textItem : ∀ s v, ¬ related (.text s) (.list [v])
  itemText : ∀ v s, ¬ related (.list [v]) (.text s)
  object : ∀ fs gs : Table Value,
    related (.object fs) (.object gs) ↔ fs.Entrywise (fun _ => related) gs

/-- Values are compared as they are. -/
theorem faithful_eq : Faithful fun v w => v = w where
  text s t := by simp
  item v w := by simp
  textItem s v := by simp
  itemText v s := by simp
  object fs gs := by rw [Value.object.injEq, Table.Entrywise.eq_iff]

/-- Values are compared by their texts. -/
theorem faithful_sameText {style : Json.Style} (regular : style.Regular) :
    Faithful (Json.SameText style) where
  text s t := Json.sameText_text_iff
  item v w := by simp [Json.sameText_items_iff regular (v := .list [v]) (w := .list [w]) rfl rfl]
  textItem s v := Json.not_alikeAt_items rfl
  itemText v s alike := Json.not_alikeAt_items rfl alike.symm
  object fs gs := Json.sameText_object_iff regular

variable {related : Value → Value → Prop}

/-! ## Tokens and arguments -/

namespace Faithful

/-- Descriptors in order are told from their tokens. -/
theorem token_iff (faithful : Faithful related) {d e : Descriptor} (proper : d.Proper)
    (proper' : e.Proper) : related d.token e.token ↔ d = e := by
  -- A token is a text or a list of one text, and these are compared as they are.
  have tokens : related d.token e.token ↔ d.token = e.token := by
    unfold Descriptor.token
    split <;> split
    · rw [faithful.item, faithful.text]
      simp
    · exact iff_of_false (faithful.itemText _ _) nofun
    · exact iff_of_false (faithful.textItem _ _) nofun
    · rw [faithful.text]
      simp
  rw [tokens]
  constructor
  · intro same
    have reads := Descriptor.ofToken_token proper
    rw [same, Descriptor.ofToken_token proper'] at reads
    exact (Except.ok.inj reads).symm
  · rintro rfl
    rfl

/-- Contracts are told from the tokens of their arguments. -/
theorem expectValue_iff (faithful : Faithful related) {c e : Contract}
    (proper : ∀ a ∈ c, a.2.Proper) (proper' : ∀ a ∈ e, a.2.Proper) :
    related (Field.expectValue c) (Field.expectValue e) ↔ c = e := by
  rw [Field.expectValue, Field.expectValue, faithful.object, Table.Entrywise.mapValues_iff,
    ← Table.Entrywise.eq_iff]
  exact Table.Entrywise.congr fun a mem b mem' => faithful.token_iff (proper a mem) (proper' b mem')

end Faithful

/-! ## Fields -/

namespace Field

/-- The description of a field as far as it is shown; null stands for one that is not. -/
def shown (f : Field) : Value := if f.description.truthy then f.description else .null

/-- A field as it is told. -/
def told (f : Field) : Field := { f with description := f.shown }

/-- A field of which the types are in order. -/
structure Typed (f : Field) : Prop where
  type : f.type.Proper
  expect : ∀ a ∈ f.expect, a.2.Proper

/-- **Two fields agree** in what is told of them: their types, their contracts, and their descriptions if
they are shown. -/
@[mk_iff]
structure Agree (related : Value → Value → Prop) (f g : Field) : Prop where
  type : f.type = g.type
  expect : f.expect = g.expect
  shows : f.description.truthy = g.description.truthy
  description : f.description.truthy = true → related f.description g.description

/-- Only descriptions that are shown are compared. -/
theorem Agree.congr {other : Value → Value → Prop} {f g : Field}
    (same : f.description.truthy = true → g.description.truthy = true →
      (related f.description g.description ↔ other f.description g.description)) :
    f.Agree related g ↔ f.Agree other g := by
  constructor
  · rintro ⟨type, expect, shows, description⟩
    exact ⟨type, expect, shows, fun truthy => (same truthy (shows ▸ truthy)).1 (description truthy)⟩
  · rintro ⟨type, expect, shows, description⟩
    exact ⟨type, expect, shows, fun truthy => (same truthy (shows ▸ truthy)).2 (description truthy)⟩

/-- **Fields are described alike** if and only if they agree. -/
theorem describe_related_iff (faithful : Faithful related) {f g : Field} (typed : f.Typed)
    (typed' : g.Typed) : related f.describe g.describe ↔ f.Agree related g := by
  have types := faithful.token_iff typed.type typed'.type
  have contracts := faithful.expectValue_iff typed.expect typed'.expect
  rw [agree_iff, describe, describe, faithful.object]
  -- Which keys there are tells whether there is a contract, and whether a description is shown.
  cases hf : f.expect with
  | nil =>
    cases hg : g.expect with
    | nil =>
      cases f.description.truthy <;> cases g.description.truthy <;> simp [Table.Entrywise, types]
    | cons a rest =>
      cases f.description.truthy <;> cases g.description.truthy <;> simp [Table.Entrywise, types]
  | cons a rest =>
    cases hg : g.expect with
    | nil =>
      cases f.description.truthy <;> cases g.description.truthy <;> simp [Table.Entrywise, types]
    | cons b rest' =>
      rw [hf, hg] at contracts
      cases f.description.truthy <;> cases g.description.truthy <;>
        simp [Table.Entrywise, types, contracts]

theorem shown_of_truthy {f : Field} (shows : f.description.truthy = true) : f.shown = f.description :=
  if_pos shows

theorem shown_of_not_truthy {f : Field} (hides : f.description.truthy = false) : f.shown = .null := by
  rw [shown, hides]
  rfl

/-- A field is told as it is, but for a description that is not shown. -/
theorem agree_told (f : Field) : f.told.Agree (· = ·) f := by
  have same : f.told.description = f.shown := rfl
  cases shows : f.description.truthy with
  | true =>
    rw [shown_of_truthy shows] at same
    exact ⟨rfl, rfl, by rw [same], fun _ => same⟩
  | false =>
    rw [shown_of_not_truthy shows] at same
    refine ⟨rfl, rfl, ?_, ?_⟩
    · rw [same, shows]
      rfl
    · rw [same]
      exact nofun

theorem describe_told (f : Field) : f.told.describe = f.describe := by
  obtain ⟨-, -, shows, description⟩ := agree_told f
  have descriptions : (if f.told.description.truthy then [("description", f.told.description)] else []) =
      if f.description.truthy then [("description", f.description)] else [] := by
    rw [← shows]
    split
    · rename_i truthy
      rw [description truthy]
    · rfl
  rw [describe, describe, descriptions]
  rfl

end Field

/-! ## Registries -/

namespace Registry

/-- A registry as it is told. -/
def told (r : Registry) : Registry :=
  ⟨r.types.mapValues fun chunk => chunk.mapValues Field.told, r.root.mapValues Field.told⟩

/-- **Two registries agree**: they have the same types in the same order, each with the same fields in the
same order, and the same queries, and what is told of these is the same. -/
@[mk_iff]
structure Agree (related : Value → Value → Prop) (r s : Registry) : Prop where
  types : r.types.Entrywise (fun _ c d => c.Entrywise (fun _ => Field.Agree related) d) s.types
  queries : r.root.Entrywise (fun _ => Field.Agree related) s.root

/-- A registry of which the types of all fields are in order. -/
def Typed (r : Registry) : Prop := ∀ c ∈ (rootName, r.root) :: r.types, ∀ e ∈ c.2, e.2.Typed

theorem agree_told (r : Registry) : r.told.Agree (· = ·) r := by
  have chunk (c : Chunk) : (c.mapValues Field.told).Entrywise (fun _ => Field.Agree (· = ·)) c := by
    rw [Table.Entrywise.mapValues_left_iff, Table.Entrywise.self_iff]
    exact fun a _ => a.2.agree_told
  refine ⟨?_, chunk r.root⟩
  rw [told, Table.Entrywise.mapValues_left_iff, Table.Entrywise.self_iff]
  exact fun a _ => chunk a.2

theorem describe_told (r : Registry) : r.told.describe = r.describe := by
  simp only [describe, told, Table.mapValues_mapValues, Field.describe_told]

/-- **Registries are described alike** if and only if they agree. -/
theorem describe_related_iff (faithful : Faithful related) {r s : Registry} (typed : r.Typed)
    (typed' : s.Typed) : related r.describe s.describe ↔ r.Agree related s := by
  have chunks {c d : Chunk} (each : ∀ e ∈ c, e.2.Typed) (each' : ∀ e ∈ d, e.2.Typed) :
      related (.object (c.mapValues Field.describe)) (.object (d.mapValues Field.describe)) ↔
        c.Entrywise (fun _ => Field.Agree related) d := by
    rw [faithful.object, Table.Entrywise.mapValues_iff]
    exact Table.Entrywise.congr fun a mem b mem' =>
      Field.describe_related_iff faithful (each a mem) (each' b mem')
  have types : related (.object (r.types.mapValues fun c => .object (c.mapValues Field.describe)))
      (.object (s.types.mapValues fun c => .object (c.mapValues Field.describe))) ↔
      r.types.Entrywise (fun _ c d => c.Entrywise (fun _ => Field.Agree related) d) s.types := by
    rw [faithful.object, Table.Entrywise.mapValues_iff]
    exact Table.Entrywise.congr fun c mem d mem' =>
      chunks (typed c (List.mem_cons_of_mem _ mem)) (typed' d (List.mem_cons_of_mem _ mem'))
  have queries := chunks (typed _ List.mem_cons_self) (typed' _ List.mem_cons_self)
  rw [describe, describe, faithful.object]
  simp only [Table.Entrywise, List.forall₂_cons, List.forall₂_nil_left_iff, true_and, and_true]
  rw [types, queries, agree_iff]

/-- A registry of which the descriptions of fields are texts, as far as they are shown. -/
def Worded (r : Registry) : Prop := ∀ c ∈ (rootName, r.root) :: r.types, ∀ e ∈ c.2,
  e.2.description.truthy = true → ∃ s, e.2.description = .text s

/-- Where descriptions are texts, they have one text exactly if they are equal. -/
theorem agree_sameText_iff {style : Json.Style} {r s : Registry} (worded : r.Worded)
    (worded' : s.Worded) : r.Agree (Json.SameText style) s ↔ r.Agree (· = ·) s := by
  have chunks {c d : String × Chunk} (mem : c ∈ (rootName, r.root) :: r.types)
      (mem' : d ∈ (rootName, s.root) :: s.types) :
      c.2.Entrywise (fun _ => Field.Agree (Json.SameText style)) d.2 ↔
        c.2.Entrywise (fun _ => Field.Agree (· = ·)) d.2 := by
    refine Table.Entrywise.congr fun a inside b inside' => Field.Agree.congr fun truthy truthy' => ?_
    obtain ⟨text, same⟩ := worded c mem a inside truthy
    obtain ⟨text', same'⟩ := worded' d mem' b inside' truthy'
    rw [same, same', Json.sameText_text_iff, Value.text.injEq]
  have types := @Table.Entrywise.congr _ _
    (fun _ c d => Table.Entrywise (fun _ => Field.Agree (Json.SameText style)) c d) r.types s.types
    (fun _ c d => Table.Entrywise (fun _ => Field.Agree (· = ·)) c d)
    fun c mem d mem' => chunks (List.mem_cons_of_mem _ mem) (List.mem_cons_of_mem _ mem')
  have queries := chunks List.mem_cons_self List.mem_cons_self
  rw [agree_iff, agree_iff, types, queries]

/-! ## Keys -/

/-- No key is repeated in the tables of a draft. -/
structure Draft.Once (d : Draft) : Prop where
  types : d.types.keys.Nodup
  chunks : ∀ c ∈ d.types, c.2.keys.Nodup
  root : d.root.keys.Nodup

theorem Draft.once_after (additions : List Draft.Addition) : (Draft.after additions).Once := by
  refine Draft.holds_after ⟨List.nodup_nil, nofun, List.nodup_nil⟩ ?_
  intro d d' change once
  cases change with
  | @declare name named =>
    unfold Draft.declare
    split
    · exact once
    · refine ⟨Table.nodup_set once.types name [], fun c mem => ?_, once.root⟩
      rcases Table.mem_set mem with rfl | before
      · exact List.nodup_nil
      · exact once.chunks c before
  | @write owner name f known sets =>
    unfold Draft.setField
    split
    · exact ⟨once.types, once.chunks, Table.nodup_set once.root name f⟩
    · rename_i other
      have chunk : (d.chunk owner).keys.Nodup := by
        unfold Draft.chunk
        rw [if_neg other]
        cases found : d.types.get? owner with
        | none => exact List.nodup_nil
        | some c => exact once.chunks _ (Table.mem_of_get? found)
      refine ⟨Table.nodup_set once.types owner _, fun c mem => ?_, once.root⟩
      rcases Table.mem_set mem with rfl | before
      · exact Table.nodup_set chunk name f
      · exact once.chunks c before

/-! ## Descriptions as host tables -/

/-- A chunk that is described, with a resolver attached to each field under its name. -/
def attach (resolver : String → Value) (chunk : Value) : Value :=
  .object (chunk.fields.map fun e => (e.1, .object (Table.set e.2.fields "resolve" (resolver e.1))))

/-- **The table of types** that a description is, with the resolvers of their fields. -/
def hostTypes (resolver : String → String → Value) (description : Value) : Table Value :=
  ((description.fields.get? "types").getD .null).fields.map fun e => (e.1, attach (resolver e.1) e.2)

/-- **The table of queries** that a description is, with their resolvers. -/
def hostQueries (resolver : String → String → Value) (description : Value) : Table Value :=
  (attach (resolver rootName) ((description.fields.get? "queries").getD .null)).fields

end Registry

/-- What is told of a field, with a resolver. -/
def Field.hosted (f : Field) (resolver : Value) : Value :=
  .object (Table.set f.describe.fields "resolve" resolver)

/-- What is told of a field, by its keys. -/
theorem Field.get?_describe (f : Field) : f.describe.fields.get? "type" = some f.type.token ∧
    f.describe.fields.get? "expect" =
      (if f.expect.isEmpty then none else some (Field.expectValue f.expect)) ∧
    f.describe.fields.get? "description" = if f.description.truthy then some f.description else none := by
  unfold Field.describe
  cases f.expect.isEmpty <;> cases f.description.truthy <;> simp [Value.fields, Table.get?]

namespace Registry

variable {host : Value → Option Resolver} {check : Bool} {r : Registry}

/-- **What is told of a field defines it**, with its resolver, as it is told. -/
theorem defines_hosted {supplied : Resolver → Prop} {name : String} {f : Field}
    (proper : FieldProper supplied name f) {resolver : Value} (resolves : host resolver = some f.resolve) :
    Defines host name (f.hosted resolver) f.told := by
  obtain ⟨type, expect, description⟩ := f.get?_describe
  have other {key : String} (ne : "resolve" ≠ key) :
      (Table.set f.describe.fields "resolve" resolver).get? key = f.describe.fields.get? key :=
    Table.get?_set_of_ne _ _ ne
  refine .field proper.named proper.same ?_ proper.type.denotes ?_ ?_ ?_
  · rw [other (by decide), type]
  · rw [Table.get?_set_self]
    exact resolves
  · rw [other (by decide), expect]
    show Expects _ f.expect
    cases arguments : f.expect with
    | nil => exact .none
    | cons a rest =>
      apply Expects.arguments
      rw [Table.Entrywise.mapValues_left_iff, Table.Entrywise.self_iff, ← arguments]
      rintro ⟨arg, d⟩ mem
      obtain ⟨inOrder, native⟩ := proper.expect arg d mem
      exact ⟨inOrder.denotes, native⟩
  · rw [other (by decide), description]
    show f.shown = _
    unfold Field.shown
    split <;> rfl

/-- A chunk that is described, with resolvers: what is told of each field, with its own. -/
theorem attach_describe (resolver : String → Value) (chunk : Chunk) :
    attach resolver (.object (chunk.mapValues Field.describe)) =
      .object (chunk.map fun e => (e.1, e.2.hosted (resolver e.1))) := by
  rw [attach, Value.fields, Table.mapValues, List.map_map]
  rfl

theorem hostTypes_describe (resolver : String → String → Value) (r : Registry) :
    hostTypes resolver r.describe = r.types.map fun e =>
      (e.1, .object (e.2.map fun x => (x.1, x.2.hosted (resolver e.1 x.1)))) := by
  show ((Value.object (r.types.mapValues fun c => .object (c.mapValues Field.describe))).fields.map
    fun e => (e.1, attach (resolver e.1) e.2)) = _
  rw [Value.fields, Table.mapValues, List.map_map]
  exact List.map_congr_left fun e _ => by rw [Function.comp_apply, attach_describe]

theorem hostQueries_describe (resolver : String → String → Value) (r : Registry) :
    hostQueries resolver r.describe =
      r.root.map fun x => (x.1, x.2.hosted (resolver rootName x.1)) := by
  show (attach (resolver rootName) (.object (r.root.mapValues Field.describe))).fields = _
  rw [attach_describe]
  rfl

/-! ## Registries that are made -/

/-- **`MadeRaw check r`** — `r` comes about without ready-made fields, with its references checked or not. -/
inductive MadeRaw (check : Bool) (r : Registry) : Prop where
  | build {additions : List Draft.Addition} (raw : ∀ a ∈ additions, a.IsRaw)
      (built : (Draft.after additions).build check = .ok r)
  | tables {host : Value → Option Resolver} {types queries : Value}
      (built : ofTables host types queries check = .ok r)

theorem MadeRaw.exists_additions (made : r.MadeRaw check) :
    ∃ additions, (∀ a ∈ additions, a.IsRaw) ∧ (Draft.after additions).build check = .ok r := by
  cases made with
  | build raw built => exact ⟨_, raw, built⟩
  | tables built => exact additions_of_tables built

/-- The types of all fields are in order. -/
theorem MadeRaw.typed (made : r.MadeRaw check) : r.Typed := by
  obtain ⟨additions, raw, built⟩ := made.exists_additions
  obtain ⟨rfl, -⟩ := Draft.build_eq_ok_iff.1 built
  obtain ⟨-, fields, queries⟩ := Draft.wellFormed_after raw
  have typed {supplied : Resolver → Prop} {name : String} {f : Field}
      (proper : FieldProper supplied name f) : f.Typed :=
    ⟨proper.type, fun a mem => (proper.expect a.1 a.2 mem).1⟩
  intro c mem e inside
  rcases List.mem_cons.1 mem with rfl | declared
  · exact typed (queries e.1 e.2 inside)
  · exact typed (fields c.1 c.2 declared e.1 e.2 inside)

/-- References are in order in a registry as it is told if they are in the registry. -/
theorem Closed.told (closed : r.Closed) : r.told.Closed := by
  intro c mem e inside
  have chunks : (rootName, r.told.root) :: r.told.types =
      Table.mapValues (fun chunk => chunk.mapValues Field.told) ((rootName, r.root) :: r.types) := rfl
  rw [chunks] at mem
  obtain ⟨d, declared, rfl⟩ := List.mem_map.1 mem
  obtain ⟨x, there, rfl⟩ := List.mem_map.1 inside
  have keys : r.told.types.keys = r.types.keys := Table.keys_map _ _
  rw [Table.has_iff, keys, ← Table.has_iff]
  exact closed d declared x there

/-- **A description is read back**: with a resolver for each field, it gives the registry as it is told. -/
theorem MadeRaw.ofTables_describe (made : r.MadeRaw check) {resolver : String → String → Value}
    (attached : ∀ owner name f, r.field? owner name = some f →
      host (resolver owner name) = some f.resolve) :
    ofTables host (.object (hostTypes resolver r.describe)) (.object (hostQueries resolver r.describe))
      check = .ok r.told := by
  obtain ⟨additions, raw, built⟩ := made.exists_additions
  obtain ⟨rfl, closed⟩ := Draft.build_eq_ok_iff.1 built
  obtain ⟨onceTypes, onceEach, onceQueries⟩ := Draft.once_after additions
  obtain ⟨named, fields, queries⟩ := Draft.wellFormed_after raw
  rw [hostTypes_describe, hostQueries_describe]
  -- The tables repeat no key, since the draft does not; and each of their entries defines what is told.
  refine (ofTables_eq_ok_iff ⟨?_, ?_, ?_⟩).2 ⟨?_, ?_, fun checks => (closed checks).told⟩
  · rw [Table.keys_map]
    exact onceTypes
  · intro c mem
    obtain ⟨d, declared, rfl⟩ := List.mem_map.1 mem
    rw [Value.fields, Table.keys_map]
    exact onceEach d declared
  · rw [Table.keys_map]
    exact onceQueries
  · refine Table.Entrywise.map_iff.2 fun c mem => .type (named c.1 c.2 mem) ?_
    refine Table.Entrywise.map_iff.2 fun x inside =>
      defines_hosted (fields c.1 c.2 mem x.1 x.2 inside) (attached c.1 x.1 x.2 ?_)
    have declared := (Table.get?_eq_some_iff_mem onceTypes).2 mem
    rw [field?, chunk?, if_neg (named c.1 c.2 mem).notRoot, declared]
    exact (Table.get?_eq_some_iff_mem (onceEach c mem)).2 inside
  · refine Table.Entrywise.map_iff.2 fun x inside =>
      defines_hosted (queries x.1 x.2 inside) (attached rootName x.1 x.2 ?_)
    rw [field?, chunk?, if_pos rfl]
    exact (Table.get?_eq_some_iff_mem onceQueries).2 inside

/-- **Descriptions are faithful.** The description of a registry that is made without ready-made fields, with
a resolver attached to each field, is a pair of host tables that make this registry again, as it is told:
with the same types, fields, descriptors, arguments and resolvers in the same order, and with the same
description. Two such registries have one description, as a value or as a text, if and only if they agree
in all that is told of them. -/
theorem describe_faithful (made : r.MadeRaw check) :
    (∀ (host : Value → Option Resolver) (resolver : String → String → Value),
      (∀ owner name f, r.field? owner name = some f → host (resolver owner name) = some f.resolve) →
      ofTables host (.object (hostTypes resolver r.describe))
        (.object (hostQueries resolver r.describe)) check = .ok r.told) ∧
    r.told.Agree (· = ·) r ∧ r.told.describe = r.describe ∧
    ∀ (check' : Bool) (s : Registry), s.MadeRaw check' →
      (r.describe = s.describe ↔ r.Agree (· = ·) s) ∧
      ∀ style ∈ Json.styles,
        (Json.SameText style r.describe s.describe ↔ r.Agree (Json.SameText style) s) ∧
        (r.Worded → s.Worded →
          (Json.SameText style r.describe s.describe ↔ r.Agree (· = ·) s)) := by
  refine ⟨fun host resolver => made.ofTables_describe, r.agree_told, r.describe_told, ?_⟩
  intro check' s made'
  refine ⟨describe_related_iff faithful_eq made.typed made'.typed, fun style mem => ?_⟩
  have regular := Json.regular_of_mem style mem
  have texts := describe_related_iff (faithful_sameText regular) made.typed made'.typed
  exact ⟨texts, fun worded worded' => texts.trans (agree_sameText_iff worded worded')⟩

/-- A type and a query, with what can be left out left out. -/
def terse : List Draft.Addition := [
  .field (.text "Pet") (.text "name") { type := .text "String!", resolve := some (Example.required "name") },
  .query (.text "pets")
    { type := .tuple [.text "Pet"], resolve := some (Example.required "pets")
      expect := .object [("owner", .text "String")], description := .text "All pets" }]

/-- The same type and query, in more words. -/
def wordy : List Draft.Addition := [
  .type (.text "Pet"),
  .query (.text "pets")
    { type := .list [.text "Pet"], resolve := some (Example.required "all")
      expect := .object [("owner", .text "String")], description := .text "All pets" },
  .field (.text "Pet") (.text "name")
    { type := .text "String!", resolve := some (Example.required "name"), expect := .object []
      description := .text "" }]

/-- The resolver of a field stands for itself, by the place of the field. -/
def byPlace (r : Registry) : Value → Option Resolver
  | .list [.text owner, .text name] => (r.field? owner name).map Field.resolve
  | _ => none

/-- What has been left out makes no difference to the description. -/
theorem describe_faithful_pets : ∃ r s, (Draft.after terse).build true = .ok r ∧
    (Draft.after wordy).build true = .ok s ∧ r.Agree (· = ·) s ∧
    ofTables (byPlace r) (.object (hostTypes (fun owner name => .list [.text owner, .text name]) r.describe))
      (.object (hostQueries (fun owner name => .list [.text owner, .text name]) r.describe)) true =
        .ok r.told := by
  have built : (Draft.after terse).build true = .ok ⟨(Draft.after terse).types, (Draft.after terse).root⟩ :=
    rfl
  have built' : (Draft.after wordy).build true = .ok ⟨(Draft.after wordy).types, (Draft.after wordy).root⟩ :=
    rfl
  have made := MadeRaw.build (by simp [terse, Draft.Addition.IsRaw]) built
  have made' := MadeRaw.build (by simp [wordy, Draft.Addition.IsRaw]) built'
  obtain ⟨back, -, -, described⟩ := describe_faithful made
  refine ⟨_, _, built, built', (described true _ made').1.1 rfl, back _ _ ?_⟩
  intro owner name f found
  simp only [byPlace, found, Option.map_some]

end Registry

end CallTree
