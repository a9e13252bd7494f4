/-
# CallTree.Proofs.Resolution.Conformance — what the result of a call tree is like.

`Conforms` says of a value that it is shaped by a call tree and the declared types: the result of a
composition is a list, that of any other call an object of one key; what is below the key depends on
the type of the field, and each null there has its reason. What resolvers came to is read off a history,
so the resolvers themselves may do anything.

Resolution comes to conforming values only (`sound_resolve`).
-/
import CallTree.Proofs.Check
import CallTree.Proofs.Resolution.Positions
import CallTree.Proofs.Resolution.Scripts
import CallTree.Proofs.Table

namespace CallTree.Resolution

open Journal

mutual

/-- **`Conforms r history n owner data path v`** — in a request with that history, `v` is a result of
the call `n` at the position, where `n` is asked of a value `data` of the type `owner`. -/
inductive Conforms (r : Registry) (history : List Event) :
    Node → String → Value → Path → Value → Prop where
  /-- One entry for each call, in order. -/
  | compose {args : Option (Table Value)} {children : List Node} {owner : String} {data : Value}
      {path : Path} {values : List Value} (length : values.length = children.length)
      (entries : ∀ (i : Nat) (c : Placed) (v : Value), (placed path children)[i]? = some c →
        values[i]? = some v → Conforms r history c.2 owner data c.1 v) :
      Conforms r history (.mk Node.composeName args children) owner data path (.list values)
  /-- One key, the name of the call. -/
  | field {name : String} {args : Option (Table Value)} {children : List Node} {owner : String}
      {data : Value} {path : Path} {f : Field} {outcome : Except Failure Value} {v : Value}
      (found : r.field? owner name = some f)
      (ended : .ended ⟨owner, name, path, args.getD [], data⟩ outcome ∈ history)
      (completes : Completes r history f.type children path outcome v) :
      Conforms r history (.mk name args children) owner data path (.single name v)

/-- What a field of a type has for a value, when its resolver came to some outcome. -/
inductive Completes (r : Registry) (history : List Event) :
    Descriptor → List Node → Path → Except Failure Value → Value → Prop where
  | failed {type : Descriptor} {children : List Node} {path : Path} (failure : Failure) :
      Completes r history type children path (.error failure) .null
  | null {type : Descriptor} {children : List Node} {path : Path}
      (optional : type.isRequired = false) :
      Completes r history type children path (.ok .null) .null
  | native {type : Descriptor} {path : Path} {v : Value} (native : type.isNative = true)
      (accepted : type.Accepts v) : Completes r history type [] path (.ok v) v
  | one {type : Descriptor} {children : List Node} {path : Path} {v w : Value}
      (custom : type.isNative = false) (single : type.isArray = false) (present : v ≠ .null)
      (below : Below r history type.name children path v w) :
      Completes r history type children path (.ok v) w
  | many {type : Descriptor} {children : List Node} {path : Path} {items values : List Value}
      (custom : type.isNative = false) (array : type.isArray = true)
      (length : values.length = items.length)
      (noNull : type.isRequired = true → .null ∉ items)
      (nulls : ∀ i : Nat, items[i]? = some .null → values[i]? = some .null)
      (others : ∀ (i : Nat) (item w : Value), items[i]? = some item → item ≠ .null →
        values[i]? = some w → Below r history type.name children (path ++ [(i : Int)]) item w) :
      Completes r history type children path (.ok (.list items)) (.list values)

/-- **What the children of a call have** on a value of a type: an object with the values of the real
children and of those in the blocks that hold of these, in this order. A name that comes again is kept
at its first place, with its last value. -/
inductive Below (r : Registry) (history : List Event) :
    String → List Node → Path → Value → Value → Prop where
  | object {type : String} {children : List Node} {path : Path} {data : Value}
      {entries : List (String × Value)} {bs : List Placed} {output fields : Table Value}
      (names : entries.map Prod.fst = (called path children bs).map fun c => c.2.name)
      (each : ∀ (i : Nat) (c : Placed) (e : String × Value), (called path children bs)[i]? = some c →
        entries[i]? = some e → Conforms r history c.2 type data c.1 (.single e.1 e.2))
      (first : Table.Laid (entries.take (real path children).length) output)
      (holds : holding output (conditional path children) = .ok bs)
      (all : Table.Laid entries fields) :
      Below r history type children path data (.object fields)

end

variable {r : Registry} {history : List Event}

theorem Below.ne_null {type : String} {children : List Node} {path : Path} {data v : Value}
    (h : Below r history type children path data v) : v ≠ .null := by
  cases h
  exact nofun

/-- The result of a call that is no composition has one key. -/
theorem Conforms.single_of_field {n : Node} {owner : String} {data v : Value} {path : Path}
    (h : Conforms r history n owner data path v) (field : n.isCompose = false) :
    ∃ w, v = .single n.name w := by
  cases h with
  | compose => cases field
  | field => exact ⟨_, rfl⟩

/-! ## Reading off what tasks come to -/

/-- **Side by side**: each task has come to its value, and what it wrote is in the history. -/
theorem gatherAll_told {tasks : List Work} {next : List Value → Work} {v : Value}
    {updates : List (Journal → Journal)} (ends : (Task.gatherAll tasks next).Ends (.ok v) updates)
    (told : written updates ⊆ history) :
    ∃ values later, values.length = tasks.length ∧
      (∀ (i : Nat) (t : Work) (w : Value), tasks[i]? = some t → values[i]? = some w →
        ∃ part, t.Ends (.ok w) part ∧ written part ⊆ history) ∧
      (next values).Ends (.ok v) later ∧ written later ⊆ history := by
  rcases ends.gatherAll_inv with ⟨runs, mixed, later, ran, mixes, rest, rfl⟩ | ⟨_, _, _, _, failed, _⟩
  · rw [written_append] at told
    have toldMixed : written mixed ⊆ history := fun e mem => told (List.mem_append_left _ mem)
    have toldLater : written later ⊆ history := fun e mem => told (List.mem_append_right _ mem)
    refine ⟨runs.map (·.1), later, ?_, ?_, rest, toldLater⟩
    · rw [List.length_map, ran.length_eq]
    · intro i t w task value
      rw [List.getElem?_map, Option.map_eq_some_iff] at value
      obtain ⟨run, here, rfl⟩ := value
      refine ⟨run.2, ran.getElem? task here, fun e mem => toldMixed ?_⟩
      have among : run.2 ⊆ runs.flatMap (·.2) :=
        fun u hu => List.mem_flatMap.2 ⟨run, List.mem_of_getElem? here, hu⟩
      exact written_subset (fun u hu => mixes.mem_iff.2 (among hu)) mem
  · cases failed

/-- A round of calls with its results: no composition is among them, and each has an entry under its
name. -/
theorem round_told {scope : Scope} {cs : List Placed} {output : Table Value}
    {next : Table Value → Work} {v : Value} {updates : List (Journal → Journal)}
    (ends : (round r scope cs output next).Ends (.ok v) updates) (told : written updates ⊆ history)
    (conform : ∀ c ∈ cs, ∀ w part, (resolveAt r scope c).Ends (.ok w) part → written part ⊆ history →
      Conforms r history c.2 scope.owner scope.data c.1 w) :
    ∃ (entries : List (String × Value)) (later : List (Journal → Journal)),
      entries.map Prod.fst = cs.map (fun c => c.2.name) ∧
      (∀ (i : Nat) (c : Placed) (e : String × Value), cs[i]? = some c → entries[i]? = some e →
        Conforms r history c.2 scope.owner scope.data c.1 (.single e.1 e.2)) ∧
      (next (Table.merge output entries)).Ends (.ok v) later ∧ written later ⊆ history := by
  unfold round batch at ends
  split at ends
  · cases ends
  · rename_i noCompose
    obtain ⟨values, later, length, all, rest, toldLater⟩ := gatherAll_told ends told
    rw [List.length_map] at length
    have result (i : Nat) (c : Placed) (w : Value) (call : cs[i]? = some c)
        (value : values[i]? = some w) : Conforms r history c.2 scope.owner scope.data c.1 w := by
      have task : (cs.map (resolveAt r scope))[i]? = some (resolveAt r scope c) := by
        rw [List.getElem?_map, call]
        rfl
      obtain ⟨part, ends, toldPart⟩ := all i _ w task value
      exact conform c (List.mem_of_getElem? call) w part ends toldPart
    have single (i : Nat) (name : String) (w : Value)
        (call : (cs.map fun c => c.2.name)[i]? = some name) (value : values[i]? = some w) :
        ∃ x, w = .single name x := by
      rw [List.getElem?_map, Option.map_eq_some_iff] at call
      obtain ⟨c, call, rfl⟩ := call
      have field : c.2.isCompose = false := by
        rw [List.any_eq_true] at noCompose
        exact Bool.eq_false_iff.2 fun compose => noCompose ⟨c, List.mem_of_getElem? call, compose⟩
      exact (result i c w call value).single_of_field field
    obtain ⟨entries, names, rfl⟩ := exists_entries (by rw [length, List.length_map]) single
    rw [mergeAll_singles] at rest
    refine ⟨entries, later, names, fun i c e call entry => result i c _ call ?_, rest, toldLater⟩
    rw [List.getElem?_map, entry]
    rfl

/-! ## Call trees -/

/-- What is known of a call: whatever it comes to conforms. -/
def Sound (r : Registry) (history : List Event) (n : Node) : Prop :=
  ∀ (scope : Scope) (path : Path) (v : Value) (updates : List (Journal → Journal)), scope.In r →
    (resolve r n scope path).Ends (.ok v) updates → written updates ⊆ history →
      Conforms r history n scope.owner scope.data path v

/-- What is known of the children of a field: whatever they come to conforms. -/
def SoundBelow (r : Registry) (history : List Event) (type : String) (ns : List Node) : Prop :=
  ∀ (data : Value) (path : Path) (v : Value) (updates : List (Journal → Journal)),
    (resolveBelow r ns (.of r type data) path).Ends (.ok v) updates → written updates ⊆ history →
      Below r history type ns path data v

theorem below_told {ns : List Node} (children : ∀ c ∈ ns, Sound r history c)
    (inBlocks : ∀ b ∈ ns, ∀ c ∈ b.children, Sound r history c) (type : String) :
    SoundBelow r history type ns := by
  intro data path v updates ends told
  have within := Scope.in_of r type data
  rw [resolveBelow_eq] at ends
  obtain ⟨entries, later, names, each, rest, told⟩ := round_told ends told
    fun c mem w part => children c.2 (mem_of_real mem) _ c.1 w part within
  split at rest
  · cases rest
  · rename_i bs holds
    obtain ⟨entries', later', names', each', rest, -⟩ := round_told rest told fun c mem w part => by
      obtain ⟨b, hb, inside⟩ := mem_of_inside holds mem
      exact inBlocks b hb c.2 inside _ c.1 w part within
    have length : entries.length = (real path ns).length := by
      have same := congrArg List.length names
      rwa [List.length_map, List.length_map] at same
    have merged : Table.merge (Table.merge [] entries) entries' = .ofList (entries ++ entries') :=
      List.foldl_append.symm
    rw [merged] at rest
    cases rest
    have named : (entries ++ entries').map Prod.fst =
        (called path ns bs).map fun c => c.2.name := by
      rw [List.map_append, names, names']
      exact List.map_append.symm
    have conform (i : Nat) (c : Placed) (e : String × Value) (call : (called path ns bs)[i]? = some c)
        (entry : (entries ++ entries')[i]? = some e) :
        Conforms r history c.2 type data c.1 (.single e.1 e.2) := by
      -- The entries of the blocks come after those of the real children, and so do their calls.
      unfold called at call
      by_cases first : i < (real path ns).length
      · rw [List.getElem?_append_left first] at call
        rw [List.getElem?_append_left (by omega)] at entry
        exact each i c e call entry
      · rw [List.getElem?_append_right (by omega)] at call
        rw [List.getElem?_append_right (by omega), length] at entry
        exact each' _ c e call entry
    have seen : Table.Laid ((entries ++ entries').take (real path ns).length)
        (Table.merge [] entries) := by
      rw [List.take_left' length]
      exact Table.laid_ofList entries
    exact .object named conform seen holds (Table.laid_ofList _)

/-- The items of a list with their results: null for a null, and what the children have for others. -/
theorem items_told {type : String} {ns : List Node} (below : SoundBelow r history type ns)
    {items : List Value} {path : Path} {next : List Value → Work} {v : Value}
    {updates : List (Journal → Journal)}
    (ends : (Task.gatherAll (items.mapIdx fun i item =>
        if item.isNull then .succeed .null
        else resolveBelow r ns (.of r type item) (path ++ [(i : Int)])) next).Ends (.ok v) updates)
    (told : written updates ⊆ history) :
    ∃ values later, values.length = items.length ∧
      (∀ i : Nat, items[i]? = some .null → values[i]? = some .null) ∧
      (∀ (i : Nat) (item w : Value), items[i]? = some item → item ≠ .null → values[i]? = some w →
        Below r history type ns (path ++ [(i : Int)]) item w) ∧
      (next values).Ends (.ok v) later := by
  obtain ⟨values, later, length, all, rest, -⟩ := gatherAll_told ends told
  rw [List.length_mapIdx] at length
  have result (i : Nat) (item w : Value) (here : items[i]? = some item)
      (value : values[i]? = some w) :
      ∃ part, (if item.isNull then .succeed .null
        else resolveBelow r ns (.of r type item) (path ++ [(i : Int)]) : Work).Ends (.ok w) part ∧
        written part ⊆ history :=
    all i _ w (by rw [List.getElem?_mapIdx, here]; rfl) value
  refine ⟨values, later, length, ?_, ?_, rest⟩
  · intro i here
    obtain ⟨bound, -⟩ := List.getElem?_eq_some_iff.1 here
    obtain ⟨w, value⟩ : ∃ w, values[i]? = some w := ⟨_, List.getElem?_eq_getElem (by omega)⟩
    obtain ⟨part, ends, -⟩ := result i _ w here value
    rw [if_pos (Value.isNull_iff _ |>.2 rfl)] at ends
    cases ends
    exact value
  · intro i item w here present value
    obtain ⟨part, ends, toldPart⟩ := result i item w here value
    rw [if_neg (mt item.isNull_iff.1 present)] at ends
    exact below _ _ _ _ ends toldPart

theorem descend_told {name : String} {type : Descriptor} {ns : List Node} {path : Path}
    {v w : Value} {updates : List (Journal → Journal)} (below : SoundBelow r history type.name ns)
    (custom : type.isNative = false) (present : v ≠ .null)
    (lists : type.isArray = true →
      ∃ items, v = .list items ∧ (type.isRequired = true → .null ∉ items))
    (ends : (descend r name type path (resolveBelow r ns) v).Ends (.ok w) updates)
    (told : written updates ⊆ history) :
    ∃ x, w = .single name x ∧ Completes r history type ns path (.ok v) x := by
  unfold descend at ends
  rw [if_neg (mt v.isNull_iff.1 present)] at ends
  by_cases array : type.isArray = true
  · obtain ⟨items, rfl, noNull⟩ := lists array
    rw [if_pos array] at ends
    obtain ⟨values, later, length, nulls, others, rest⟩ := items_told below ends told
    cases rest
    exact ⟨_, rfl, .many custom array length noNull nulls others⟩
  · rw [if_neg array] at ends
    rcases ends.andThen_inv with ⟨x, first, second, found, rest, rfl⟩ | ⟨_, _, failed, _⟩
    · cases rest
      rw [List.append_nil] at told
      have single : type.isArray = false := Bool.eq_false_iff.2 array
      exact ⟨x, rfl, .one custom single present (below v path x _ found told)⟩
    · cases failed

theorem completes_told {name : String} {type : Descriptor} {ns : List Node} {path : Path}
    {v w : Value} {updates : List (Journal → Journal)} (below : SoundBelow r history type.name ns)
    (ends : (complete r name type (!ns.isEmpty) path (resolveBelow r ns) v).Ends (.ok w) updates)
    (told : written updates ⊆ history) :
    ∃ x, w = .single name x ∧ Completes r history type ns path (.ok v) x := by
  unfold complete at ends
  by_cases native : type.isNative = true
  · rw [if_pos native] at ends
    split at ends
    · cases ends
    · rename_i passed
      cases ends
      obtain ⟨leaf, ⟨rfl, optional⟩ | accepted⟩ := Check.nativeResult_eq_ok_iff.1 passed
      · exact ⟨_, rfl, .null optional⟩
      · have none : ns = [] := by simpa using leaf
        subst none
        exact ⟨_, rfl, .native native accepted⟩
  · rw [if_neg native] at ends
    split at ends
    · cases ends
    · rename_i passed
      obtain ⟨-, ⟨rfl, optional⟩ | ⟨present, lists⟩⟩ := Check.customResult_eq_ok_iff.1 passed
      · cases ends
        exact ⟨_, rfl, .null optional⟩
      · exact descend_told below (Bool.eq_false_iff.2 native) present lists ends told

/-- **Whatever resolution comes to conforms.** -/
theorem sound_resolve (r : Registry) (history : List Event) (n : Node) : Sound r history n := by
  induction n using Node.induct with
  | compose args children ih =>
    intro scope path v updates within ends told
    rw [resolve_compose] at ends
    obtain ⟨values, later, length, all, rest, -⟩ := gatherAll_told ends told
    cases rest
    refine .compose ?_ ?_
    · rw [length, List.length_map, length_placed]
    · intro i c w call value
      have task : ((placed path children).map (resolveAt r scope))[i]? =
          some (resolveAt r scope c) := by
        rw [List.getElem?_map, call]
        rfl
      obtain ⟨part, ends, toldPart⟩ := all i _ w task value
      exact ih c.2 (mem_of_placed (List.mem_of_getElem? call)) scope c.1 w part within ends toldPart
  | when args children =>
    intro scope path v updates within ends told
    rw [resolve_when] at ends
    cases ends
  | field name args children noCompose noWhen ih ihBlocks =>
    intro scope path v updates within ends told
    rw [resolve_field r args children scope path noCompose noWhen, callField, within.get?] at ends
    split at ends
    · cases ends
    · rename_i f found
      split at ends
      · cases ends
      · obtain ⟨outcome, later, rest, wrote, -⟩ := Script.call_inv ends
        rw [wrote] at told
        have ended := told (List.mem_cons_of_mem _ List.mem_cons_self)
        have toldLater : written later ⊆ history := fun e mem =>
          told (List.mem_cons_of_mem _ (List.mem_cons_of_mem _ mem))
        cases outcome with
        | error failure =>
          cases rest
          exact .field found ended (.failed failure)
        | ok value =>
          obtain ⟨w, rfl, completes⟩ := completes_told (below_told ih ihBlocks _) rest toldLater
          exact .field found ended completes

end CallTree.Resolution
