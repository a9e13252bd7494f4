/-
# CallTree.Proofs.Sequential.Selection — each child on each item by itself.

What a child gives on a value, and what is told of it, is the same whatever is requested beside it and
wherever it stands: its cell (`cell`). Children with different names, and without conditional blocks,
come to a row of their cells on a value (`row`), and on the items of a list to a row for each
(`grid`). They succeed if each child does on each item (`descend_of_serves`) and only then
(`serves_of_descend`). So whoever requests some of the children gets their cells (`evaluate_selected`).
-/
import CallTree.Proofs.Resolution.Preorder
import CallTree.Proofs.Sequential.Positions
import CallTree.Proofs.Sequential.Relocation

namespace CallTree

namespace Sequential

open Journal Resolution

/-! ## Rows and grids -/

/-- What a child gives on a value, and what is told of its failures. -/
abbrev Cell := Value × List (List String)

variable (cells : Node → Value → Cell)

/-- **A row**: what children give on a value, each under its name. -/
def row (ns : List Node) (x : Value) : Value := .object (ns.map fun c => (c.name, (cells c x).1))

/-- What is told of a row, child by child. -/
def rowTold (ns : List Node) (x : Value) : List (List String) := ns.flatMap fun c => (cells c x).2

/-- The values that children are resolved on when a resolver has returned a value: the items of a list
that are not null, or else the value itself, if it is not. -/
def elements (type : Descriptor) (v : Value) : List Value :=
  (if type.isArray then v.items?.getD [] else [v]).filter fun x => !x.isNull

/-- A row for a value, and null for null. -/
def rowOrNull (ns : List Node) (x : Value) : Value := if x.isNull then .null else row cells ns x

/-- **A grid**: a row for the value that a resolver has returned, or a list of rows if it is a list. -/
def grid (type : Descriptor) (ns : List Node) (v : Value) : Value :=
  if v.isNull then .null
  else if type.isArray then .list ((v.items?.getD []).map (rowOrNull cells ns))
  else row cells ns v

/-- What is told of a grid, row by row. -/
def gridTold (type : Descriptor) (ns : List Node) (v : Value) : List (List String) :=
  (elements type v).flatMap (rowTold cells ns)

/-! ## Cells -/

variable {r : Registry} {answers : Answers}

/-- **What a child gives on a value by itself.** -/
def cell (r : Registry) (answers : Answers) (type : String) (c : Node) (x : Value) : Cell :=
  match evaluate .all r answers c type x [] with
  | .ok run => (((shown run).1.fields.get? c.name).getD .null, (shown run).2)
  | .error _ => (.null, [])

/-- A child that succeeds on a value by itself, and is no operator. -/
structure Serves (r : Registry) (answers : Answers) (type : String) (x : Value) (c : Node) : Prop where
  field : c.isMeta = false
  succeeds : ∃ run, evaluate .all r answers c type x [] = .ok run

/-- Nothing is told where nothing has happened. -/
theorem shown_nil (v : Value) : shown (v, []) = (v, []) := by
  exact congrArg (v, ·) (Context.errors_eq_nil (c := {}) rfl)

/-- **A child that succeeds gives its cell**, wherever it stands. -/
theorem Serves.evaluate {type : String} {x : Value} {c : Node} (h : Serves r answers type x c)
    (path : Path) : ∃ run, evaluate .all r answers c type x path = .ok run ∧
      shown run = (.single c.name (cell r answers type c x).1, (cell r answers type c x).2) := by
  obtain ⟨⟨v, log⟩, found⟩ := h.succeeds
  have noCompose : c.isCompose = false := (Bool.or_eq_false_iff.1 h.field).1
  obtain ⟨w, rfl⟩ := single_of_evaluate found noCompose
  refine ⟨_, (evaluate_at c type x path).trans (congrArg _ found), (shown_moved path _).trans ?_⟩
  have own : cell r answers type c x = (w, Context.reports (failures log)) := by
    rw [cell, found]
    simp [shown, Value.single, Value.fields, Table.get?]
  rw [own]
  rfl

/-- Whatever comes to something somewhere serves. -/
theorem Serves.of_evaluate {type : String} {x : Value} {c : Node} {path : Path}
    {run : Value × List Event} (found : Sequential.evaluate .all r answers c type x path = .ok run)
    (field : c.isMeta = false) : Serves r answers type x c := by
  rw [evaluate_at] at found
  obtain ⟨run', here, -⟩ := map_eq_ok_iff.1 found
  exact ⟨field, run', here⟩

/-- **Entries that succeed one by one**, each with what it is shown to come to. -/
theorem exists_runs {β γ : Type} {entries : List β} {key : β → γ} {keys : List γ}
    (keyed : entries.map key = keys) {v : β → Verdict (List Abort) Value} {a : γ → Cell}
    (each : ∀ x ∈ entries, ∃ run, v x = .ok run ∧ shown run = a (key x)) :
    ∃ runs : List (Value × List Event), entries.map v = runs.map .ok ∧
      runs.map (·.1) = keys.map (fun k => (a k).1) ∧
      (runs.flatMap fun run => (shown run).2) = keys.flatMap fun k => (a k).2 := by
  subst keyed
  induction entries with
  | nil => exact ⟨[], rfl, rfl, rfl⟩
  | cons x rest ih =>
    obtain ⟨⟨run, found, same⟩, others⟩ := List.forall_mem_cons.1 each
    obtain ⟨runs, all, values, told⟩ := ih others
    refine ⟨run :: runs, ?_, ?_, ?_⟩
    · rw [List.map_cons, List.map_cons, found, all]
    · rw [List.map_cons, List.map_cons, List.map_cons, ← same, values]
      rfl
    · rw [List.flatMap_cons, List.map_cons, List.flatMap_cons, ← same, told]

/-! ## Children -/

section

variable {ns : List Node} {type : String} {x : Value} {path : Path}

/-- **Children that serve come to a row of their cells**, if their names differ. -/
theorem evaluateBelow_of_serves (distinct : (ns.map Node.name).Nodup)
    (serves : ∀ c ∈ ns, Serves r answers type x c) (path : Path) :
    ∃ run, evaluateBelow .all r answers ns type x path = .ok run ∧
      shown run = (row (cell r answers type) ns x, rowTold (cell r answers type) ns x) := by
  have noOperator (c : Node) (mem : c ∈ ns) : c.isCompose = false ∧ c.isWhen = false :=
    Bool.or_eq_false_iff.1 (serves c mem).field
  obtain ⟨runs, all, values, told⟩ := exists_runs (map_snd_placed path ns)
    (v := evaluateAt .all r answers type x)
    (a := fun c => (.single c.name (cell r answers type c x).1, (cell r answers type c x).2))
    fun c mem => (serves c.2 (mem_of_placed mem)).evaluate c.1
  refine ⟨_, (evaluateBelow_eq_ok_iff fun c mem => (noOperator c mem).2).2
    ⟨fun c mem => (noOperator c mem).1, runs, all, rfl, rfl⟩, Prod.ext ?_ ?_⟩
  · -- The keys differ, so that nothing is merged into what is there already.
    show Value.object (mergeAll [] (runs.map (·.1))) = row _ ns x
    have fields := mergeAll_singles [] (ns.map fun c => (c.name, (cell r answers type c x).1))
    have keys : Table.keys (ns.map fun c => (c.name, (cell r answers type c x).1)) =
        ns.map Node.name := by
      rw [Table.keys, List.map_map]
      rfl
    rw [List.map_map, Table.merge_of_nodup (by rw [keys]; exact distinct)] at fields
    rw [values]
    exact congrArg Value.object fields
  · show Context.reports (failures (runs.flatMap (·.2))) = rowTold _ ns x
    rw [reports_of_left (left_placed path ns) (fun c _ => under_evaluate c.2 type x c.1) all, told]
    rfl

/-- **Children serve if they succeed together.** -/
theorem serves_of_evaluateBelow (noWhen : ∀ c ∈ ns, c.isWhen = false) {run : Value × List Event}
    (found : evaluateBelow .all r answers ns type x path = .ok run) :
    ∀ c ∈ ns, Serves r answers type x c := by
  obtain ⟨noCompose, runs, all, -, -⟩ := (evaluateBelow_eq_ok_iff noWhen).1 found
  intro c mem
  rw [← map_snd_placed path ns] at mem
  obtain ⟨⟨place, c⟩, here, rfl⟩ := List.mem_map.1 mem
  have ran : evaluateAt .all r answers type x (place, c) ∈ runs.map .ok :=
    all ▸ List.mem_map_of_mem here
  obtain ⟨run, -, same⟩ := List.mem_map.1 ran
  have child := mem_of_placed here
  exact .of_evaluate same.symm (Bool.or_eq_false_iff.2 ⟨noCompose c child, noWhen c child⟩)

end

/-! ## Items -/

/-- What is told of a row, and nothing for null. -/
def rowToldOrNone (ns : List Node) (x : Value) : List (List String) :=
  if x.isNull then [] else rowTold cells ns x

section

variable {ns : List Node} {type : Descriptor} {v : Value} {path : Path}

theorem elements_of_null (null : v.isNull = true) : elements type v = [] := by
  rw [Value.isNull_iff] at null
  subst null
  unfold elements
  split
  · rfl
  · rfl

theorem elements_of_array (array : type.isArray = true) :
    elements type v = (v.items?.getD []).filter fun x => !x.isNull := by
  rw [elements, if_pos array]

theorem elements_of_single (null : ¬ v.isNull = true) (single : ¬ type.isArray = true) :
    elements type v = [v] := by
  rw [elements, if_neg single, List.filter_cons_of_pos (by simpa using null), List.filter_nil]

theorem gridTold_of_array (array : type.isArray = true) :
    gridTold cells type ns v = (v.items?.getD []).flatMap (rowToldOrNone cells ns) := by
  rw [gridTold, elements_of_array array, Unfolding.flatMap_filter_eq]
  congr
  funext x
  rw [rowToldOrNone]
  cases x.isNull with
  | true => rfl
  | false => rfl

/-- **Children that serve on every item come to a grid of their cells**, if their names differ. -/
theorem descend_of_serves (distinct : (ns.map Node.name).Nodup)
    (serves : ∀ x ∈ elements type v, ∀ c ∈ ns, Serves r answers type.name x c) (path : Path) :
    ∃ run, descend .all type path (evaluateBelow .all r answers ns) v = .ok run ∧
      shown run = (grid (cell r answers type.name) type ns v,
        gridTold (cell r answers type.name) type ns v) := by
  by_cases null : v.isNull
  · refine ⟨(.null, []), descend_eq_ok_iff.2 (by rw [if_pos null]; exact ⟨rfl, rfl⟩), ?_⟩
    rw [shown_nil, grid, if_pos null, gridTold, elements_of_null null, List.flatMap_nil]
  · by_cases array : type.isArray
    · -- The items stand side by side, each with a row.
      rw [elements_of_array array] at serves
      have each (x : Value × Nat) (mem : x ∈ (v.items?.getD []).zipIdx) :
          ∃ run, itemAt type.name path (evaluateBelow .all r answers ns) x = .ok run ∧
            shown run = (rowOrNull (cell r answers type.name) ns x.1,
              rowToldOrNone (cell r answers type.name) ns x.1) := by
        unfold itemAt rowOrNull rowToldOrNone
        split
        · exact ⟨(.null, []), rfl, shown_nil .null⟩
        · rename_i real
          refine evaluateBelow_of_serves distinct (serves x.1 (List.mem_filter.2 ⟨?_, ?_⟩)) _
          · exact List.fst_mem_of_mem_zipIdx mem
          · simpa using real
      obtain ⟨runs, all, values, told⟩ := exists_runs (List.zipIdx_map_fst 0 (v.items?.getD []))
        (a := fun x => (rowOrNull (cell r answers type.name) ns x,
          rowToldOrNone (cell r answers type.name) ns x)) each
      refine ⟨(.list (runs.map (·.1)), runs.flatMap (·.2)), ?_, Prod.ext ?_ ?_⟩
      · rw [descend_eq_ok_iff, if_neg null, if_pos array]
        exact ⟨runs, all, rfl, rfl⟩
      · show Value.list (runs.map (·.1)) = grid _ type ns v
        rw [grid, if_neg null, if_pos array, values]
      · show Context.reports (failures (runs.flatMap (·.2))) = gridTold _ type ns v
        have under (x : Value × Nat) (_ : x ∈ (v.items?.getD []).zipIdx) (a : Value) (log : List Event)
            (found : itemAt type.name path (evaluateBelow .all r answers ns) x = .ok (a, log)) :
            Under (path ++ [(x.2 : Int)]) log :=
          (within_itemAt (fun _ _ _ _ => within_evaluateBelow) found).under
        rw [gridTold_of_array _ array, reports_of_left (left_items path _) under all, told]
    · rw [elements_of_single null array] at serves
      obtain ⟨run, found, same⟩ :=
        evaluateBelow_of_serves distinct (serves v (List.mem_singleton.2 rfl)) path
      refine ⟨run, ?_, ?_⟩
      · rw [descend_eq_ok_iff, if_neg null, if_neg array]
        exact found
      · rw [same, grid, if_neg null, if_neg array, gridTold, elements_of_single null array,
          List.flatMap_singleton]

/-- **Children serve on every item if they succeed on what was returned.** -/
theorem serves_of_descend (noWhen : ∀ c ∈ ns, c.isWhen = false) {run : Value × List Event}
    (found : descend .all type path (evaluateBelow .all r answers ns) v = .ok run) :
    ∀ x ∈ elements type v, ∀ c ∈ ns, Serves r answers type.name x c := by
  intro x mem
  by_cases null : v.isNull
  · rw [elements_of_null null] at mem
    cases mem
  · rw [descend_eq_ok_iff, if_neg null] at found
    by_cases array : type.isArray
    · rw [if_pos array] at found
      obtain ⟨runs, all, -, -⟩ := found
      rw [elements_of_array array, List.mem_filter] at mem
      obtain ⟨i, here⟩ := List.mem_iff_getElem?.1 mem.1
      have item : (x, i) ∈ (v.items?.getD []).zipIdx := List.mk_mem_zipIdx_iff_getElem?.2 here
      have ran : itemAt type.name path (evaluateBelow .all r answers ns) (x, i) ∈ runs.map .ok :=
        all ▸ List.mem_map_of_mem item
      obtain ⟨run, -, same⟩ := List.mem_map.1 ran
      rw [itemAt, if_neg (by simpa using mem.2)] at same
      exact serves_of_evaluateBelow noWhen same.symm
    · rw [if_neg array] at found
      rw [elements_of_single null array, List.mem_singleton] at mem
      exact mem ▸ serves_of_evaluateBelow noWhen found

end

/-! ## Calls of a field -/

/-- **What the resolver of a call has come to**: a value, or null with a failure that is told. -/
def returned (name : String) : Except Failure Value → Cell
  | .ok v => (v, [])
  | .error failure => (.null, [[name, failure.report]])

section

variable {name : String} {args : Option (Table Value)} {ns : List Node} {owner : String} {data : Value}
variable {path : Path} {f : Field}

/-- What is no operator calls a field. -/
theorem evaluate_call (call : (Node.mk name args ns).isMeta = false) :
    evaluate .all r answers (.mk name args ns) owner data path =
      callField .all r answers name args (!ns.isEmpty) owner data path
        (evaluateBelow .all r answers ns) := by
  obtain ⟨noCompose, noWhen⟩ := Bool.or_eq_false_iff.1 call
  have compose : name ≠ Node.composeName := of_decide_eq_false noCompose
  have when : name ≠ Node.whenName := of_decide_eq_false noWhen
  exact evaluate_field _ _ _ _ _ _ _ _ compose when

/-- A result that passes its check comes to a grid of cells. -/
theorem complete_of_serves (name : String) {type : Descriptor} {hasChildren : Bool} {v : Value}
    (custom : type.isNative = false) (checked : Check.customResult type hasChildren v = .ok ())
    (distinct : (ns.map Node.name).Nodup)
    (serves : ∀ x ∈ elements type v, ∀ c ∈ ns, Serves r answers type.name x c) (path : Path) :
    ∃ run, complete .all name type hasChildren path (evaluateBelow .all r answers ns) v = .ok run ∧
      shown run = (.single name (grid (cell r answers type.name) type ns v),
        gridTold (cell r answers type.name) type ns v) := by
  obtain ⟨⟨w, log⟩, found, same⟩ := descend_of_serves distinct serves path
  refine ⟨(.single name w, log), ?_, ?_⟩
  · rw [complete_eq_ok_iff, if_neg (Bool.eq_false_iff.1 custom)]
    exact ⟨checked, w, found, rfl⟩
  · obtain ⟨value, told⟩ := Prod.mk.inj same
    exact Prod.ext (congrArg (Value.single name) value) told

/-- **A call of a custom-typed field comes to a grid of cells** on what its resolver has come to, if that
passes its check and every child serves on every item. -/
theorem evaluate_of_serves (call : (Node.mk name args ns).isMeta = false)
    (found : r.field? owner name = some f) (custom : f.type.isNative = false)
    (admitted : checkCall r name args f = .ok ())
    (checked : ∀ v, answers owner name (args.getD []) data = .ok v →
      Check.customResult f.type (!ns.isEmpty) v = .ok ())
    (distinct : (ns.map Node.name).Nodup)
    (serves : ∀ x ∈ elements f.type (returned name (answers owner name (args.getD []) data)).1,
      ∀ c ∈ ns, Serves r answers f.type.name x c) (path : Path) :
    ∃ run, evaluate .all r answers (.mk name args ns) owner data path = .ok run ∧
      shown run = (.single name (grid (cell r answers f.type.name) f.type ns
          (returned name (answers owner name (args.getD []) data)).1),
        (returned name (answers owner name (args.getD []) data)).2 ++
          gridTold (cell r answers f.type.name) f.type ns
            (returned name (answers owner name (args.getD []) data)).1) := by
  rw [evaluate_call call]
  cases outcome : answers owner name (args.getD []) data with
  | error failure =>
    refine ⟨_, callField_of_error found admitted outcome, Prod.ext rfl ?_⟩
    have nothing : gridTold (cell r answers f.type.name) f.type ns .null = [] := by
      rw [gridTold, elements_of_null rfl, List.flatMap_nil]
    show Context.reports [⟨path, name, failure.report⟩] = [[name, failure.report]] ++ gridTold _ _ ns .null
    rw [nothing, Context.reports_singleton, List.append_nil]
  | ok v =>
    rw [outcome] at serves
    obtain ⟨⟨w, log⟩, completes, same⟩ :=
      complete_of_serves name custom (checked v outcome) distinct serves path
    exact ⟨_, callField_of_ok found admitted outcome completes, same⟩

/-- **A call of a custom-typed field succeeds only if** its result passes its check and every child
serves on every item. -/
theorem serves_of_evaluate (call : (Node.mk name args ns).isMeta = false)
    (found : r.field? owner name = some f) (custom : f.type.isNative = false)
    (noWhen : ∀ c ∈ ns, c.isWhen = false) {run : Value × List Event}
    (ran : evaluate .all r answers (.mk name args ns) owner data path = .ok run) :
    checkCall r name args f = .ok () ∧
      (∀ v, answers owner name (args.getD []) data = .ok v →
        Check.customResult f.type (!ns.isEmpty) v = .ok ()) ∧
      ∀ x ∈ elements f.type (returned name (answers owner name (args.getD []) data)).1,
        ∀ c ∈ ns, Serves r answers f.type.name x c := by
  rw [evaluate_call call] at ran
  obtain ⟨f', found', admitted, more, -, rest⟩ := callField_eq_ok_iff.1 ran
  cases found.symm.trans found'
  refine ⟨admitted, ?_⟩
  cases outcome : answers owner name (args.getD []) data with
  | error failure =>
    refine ⟨nofun, ?_⟩
    intro x mem
    rw [returned, elements_of_null rfl] at mem
    cases mem
  | ok v =>
    rw [outcome] at rest
    simp only at rest
    rw [complete_eq_ok_iff, if_neg (Bool.eq_false_iff.1 custom)] at rest
    obtain ⟨checked, x, descends, -⟩ := rest
    refine ⟨?_, serves_of_descend noWhen descends⟩
    rintro _ ⟨⟩
    exact checked

/-- **A selection.** A call that succeeds also succeeds with some of its children in any order, with the
cells of these. -/
theorem evaluate_selected (call : (Node.mk name args ns).isMeta = false)
    (found : r.field? owner name = some f) (custom : f.type.isNative = false)
    (noWhen : ∀ c ∈ ns, c.isWhen = false) {run : Value × List Event}
    (ran : evaluate .all r answers (.mk name args ns) owner data path = .ok run) {ms : List Node}
    (among : ms ⊆ ns) (distinct : (ms.map Node.name).Nodup) (some_ : ms ≠ []) (path' : Path) :
    ∃ run', evaluate .all r answers (.mk name args ms) owner data path' = .ok run' ∧
      shown run' = (.single name (grid (cell r answers f.type.name) f.type ms
          (returned name (answers owner name (args.getD []) data)).1),
        (returned name (answers owner name (args.getD []) data)).2 ++
          gridTold (cell r answers f.type.name) f.type ms
            (returned name (answers owner name (args.getD []) data)).1) := by
  obtain ⟨admitted, checked, serves⟩ := serves_of_evaluate call found custom noWhen ran
  have call' : (Node.mk name args ms).isMeta = false := call
  -- The check of the result does not see which children are requested, but that there are any.
  have checked' (v : Value) (outcome : answers owner name (args.getD []) data = .ok v) :
      Check.customResult f.type (!ms.isEmpty) v = .ok () := by
    have passes := Check.customResult_eq_ok_iff.1 (checked v outcome)
    exact Check.customResult_eq_ok_iff.2 ⟨by simpa using some_, passes.2⟩
  exact evaluate_of_serves call' found custom admitted checked' distinct
    (fun x element c mem => serves x element c (among mem)) path'

end

end Sequential

end CallTree
