/-
# CallTree.Proofs.Sequential.Success — successful evaluations.

An evaluation succeeds or not, whichever faults are told (`evaluate_blame`), and depends on a registry
only through the types and contracts of its fields (`evaluate_congr`).
-/
import CallTree.Proofs.Resolution.Positions
import CallTree.Proofs.Sequential.Evaluation

namespace CallTree

/-- **Registries with the same types and contracts**: they may differ in their resolvers. -/
structure Registry.Alike (r r' : Registry) : Prop where
  fields : ∀ owner name, ((r.field? owner name).map fun f => (f.type, f.expect)) =
    (r'.field? owner name).map fun f => (f.type, f.expect)
  types : ∀ name, r.hasType name = r'.hasType name

theorem Registry.Alike.exists_field {r r' : Registry} (h : r.Alike r') {owner name : String}
    {f : Field} (found : r.field? owner name = some f) :
    ∃ f', r'.field? owner name = some f' ∧ f'.type = f.type ∧ f'.expect = f.expect := by
  have same := h.fields owner name
  rw [found] at same
  obtain ⟨f', found', shape⟩ := Option.map_eq_some_iff.1 same.symm
  rw [Prod.mk.injEq] at shape
  exact ⟨f', found', shape.1, shape.2⟩

theorem Registry.Alike.field?_eq_none {r r' : Registry} (h : r.Alike r') {owner name : String}
    (found : r.field? owner name = none) : r'.field? owner name = none := by
  have same := h.fields owner name
  rw [found] at same
  exact Option.map_eq_none_iff.1 same.symm

/-- Registries of the same types are alike, whatever they answer and when. -/
theorem Answers.alike_registry (answers answers' : Answers) (pauses pauses' : String → Nat)
    (types : Table (Table Descriptor)) (root : Table Descriptor) :
    (answers.registry pauses types root).Alike (answers'.registry pauses' types root) where
  fields owner name := by
    rw [field?_registry, field?_registry, Option.map_map, Option.map_map]
    rfl
  types name := by
    have has (answers : Answers) (pauses : String → Nat) :
        (answers.registry pauses types root).hasType name = (types.get? name).isSome := by
      rw [Registry.hasType, Table.has, registry,
        Table.get?_mapEntries (answers.chunk pauses) types name, Option.isSome_map]
    rw [has, has]

namespace Sequential

open Resolution

variable {ε ε' α β : Type}

/-! ## Verdicts that succeed -/

theorem Verdict.andThen_eq_ok_iff {v : Verdict ε α} {k : α → Verdict ε β} {b : β}
    {log : List Journal.Event} :
    v.andThen k = .ok (b, log) ↔
      ∃ a own more, v = .ok (a, own) ∧ k a = .ok (b, more) ∧ log = own ++ more := by
  rcases v with e | ⟨a, own⟩
  · exact ⟨nofun, fun ⟨_, _, _, h, _⟩ => nomatch h⟩
  · rw [andThen]
    constructor
    · intro h
      split at h
      · cases h
      · rename_i b' more goesOn
        cases h
        exact ⟨a, own, more, rfl, goesOn, rfl⟩
    · rintro ⟨_, _, more, h, goesOn, rfl⟩
      cases h
      rw [goesOn]

/-- Of calls side by side that have succeeded, each has run. -/
theorem eq_ok_of_getElem? {entries : List β} {v : β → Verdict ε α}
    {runs : List (α × List Journal.Event)} (all : entries.map v = runs.map .ok) {i : Nat} {x : β}
    {run : α × List Journal.Event} (entry : entries[i]? = some x) (here : runs[i]? = some run) :
    v x = .ok run := by
  have same := congrArg (fun l => l[i]?) all
  simpa only [List.getElem?_map, entry, here, Option.map_some, Option.some.injEq] using same

theorem length_of_all {entries : List β} {v : β → Verdict ε α}
    {runs : List (α × List Journal.Event)} (all : entries.map v = runs.map .ok) :
    runs.length = entries.length := by
  have same := congrArg List.length all
  rwa [List.length_map, List.length_map, eq_comm] at same

/-- **Calls side by side succeed** if each does, with their results and failures in order. -/
theorem each_eq_ok_iff {b : Blame ε} {verdicts : List (Verdict ε α)} {as : List α}
    {log : List Journal.Event} :
    each b verdicts = .ok (as, log) ↔
      ∃ runs : List (α × List Journal.Event), verdicts = runs.map .ok ∧ as = runs.map (·.1) ∧
        log = runs.flatMap (·.2) := by
  induction verdicts generalizing as log with
  | nil =>
    constructor
    · intro h
      cases h
      exact ⟨[], rfl, rfl, rfl⟩
    · rintro ⟨runs, all, rfl, rfl⟩
      rw [List.eq_nil_of_map_eq_nil all.symm]
      rfl
  | cons v rest ih =>
    constructor
    · intro h
      rcases v with e | ⟨a, own⟩
      · rw [each] at h
        split at h <;> cases h
      · rw [each] at h
        split at h
        · rename_i as' more others
          cases h
          obtain ⟨runs, rfl, rfl, rfl⟩ := ih.1 others
          exact ⟨(a, own) :: runs, rfl, rfl, rfl⟩
        · cases h
    · rintro ⟨runs, all, rfl, rfl⟩
      cases runs with
      | nil => cases all
      | cons run runs =>
        rw [List.map_cons, List.cons.injEq] at all
        obtain ⟨rfl, rfl⟩ := all
        have others := ih.2 ⟨runs, rfl, rfl, rfl⟩
        obtain ⟨a, own⟩ := run
        rw [each, others]
        rfl

/-- Calls side by side whose results are only put together. -/
theorem each_andThen_eq_ok_iff {b : Blame ε} {verdicts : List (Verdict ε α)} {f : List α → β} {w : β}
    {log : List Journal.Event} :
    (each b verdicts).andThen (fun as => .succeed (f as)) = .ok (w, log) ↔
      ∃ runs : List (α × List Journal.Event), verdicts = runs.map .ok ∧ w = f (runs.map (·.1)) ∧
        log = runs.flatMap (·.2) := by
  constructor
  · intro h
    obtain ⟨as, own, more, found, rest, rfl⟩ := Verdict.andThen_eq_ok_iff.1 h
    obtain ⟨runs, all, rfl, rfl⟩ := each_eq_ok_iff.1 found
    cases rest
    exact ⟨runs, all, rfl, List.append_nil _⟩
  · rintro ⟨runs, all, rfl, rfl⟩
    have found : each b verdicts = .ok (runs.map (·.1), runs.flatMap (·.2)) :=
      each_eq_ok_iff.2 ⟨runs, all, rfl, rfl⟩
    exact Verdict.andThen_eq_ok_iff.2 ⟨_, _, [], found, rfl, (List.append_nil _).symm⟩

theorem round_eq_ok_iff {b : Blame ε} {composes : Bool} {calls : List (Verdict ε Value)}
    {output out : Table Value} {log : List Journal.Event} :
    round b composes calls output = .ok (out, log) ↔
      composes = false ∧ ∃ runs : List (Value × List Journal.Event), calls = runs.map .ok ∧
        out = mergeAll output (runs.map (·.1)) ∧ log = runs.flatMap (·.2) := by
  unfold round
  cases composes with
  | true => exact ⟨nofun, fun h => nomatch h.1⟩
  | false =>
    rw [if_neg Bool.false_ne_true, each_andThen_eq_ok_iff, eq_self, true_and]

theorem mergeAll_append (output : Table Value) (vs ws : List Value) :
    mergeAll output (vs ++ ws) = mergeAll (mergeAll output vs) ws :=
  List.foldl_append

/-- **The children of a call, evaluated with success**: no composition is among the real children, and
all blocks can be asked about what these give; no composition is among the calls of the blocks that
hold, and what these give comes after. -/
theorem evaluateBelow_succeeds_iff {b : Blame ε} {r : Registry} {answers : Answers} {ns : List Node}
    {type : String} {v w : Value} {path : Path} {log : List Journal.Event} :
    evaluateBelow b r answers ns type v path = .ok (w, log) ↔
      ∃ (bs : List Placed) (runs runs' : List (Value × List Journal.Event)),
        ((real path ns).any (fun c => c.2.isCompose) = false ∧
          (real path ns).map (evaluateAt b r answers type v) = runs.map .ok) ∧
        holding (mergeAll [] (runs.map (·.1))) (conditional path ns) = .ok bs ∧
        ((bs.flatMap inside).any (fun c => c.2.isCompose) = false ∧
          (bs.flatMap inside).map (evaluateAt b r answers type v) = runs'.map .ok) ∧
        w = .object (mergeAll [] ((runs ++ runs').map (·.1))) ∧
        log = (runs ++ runs').flatMap (·.2) := by
  constructor
  · intro h
    obtain ⟨output, own, more, found, goesOn, rfl⟩ := Verdict.andThen_eq_ok_iff.1 h
    obtain ⟨plain, runs, all, rfl, rfl⟩ := round_eq_ok_iff.1 found
    cases holds : holding (mergeAll [] (runs.map (·.1))) (conditional path ns) with
    | error f =>
      rw [holds] at goesOn
      cases goesOn
    | ok bs =>
      rw [holds] at goesOn
      obtain ⟨out, own', more', found', rest, rfl⟩ := Verdict.andThen_eq_ok_iff.1 goesOn
      obtain ⟨plain', runs', all', rfl, rfl⟩ := round_eq_ok_iff.1 found'
      cases rest
      refine ⟨bs, runs, runs', ⟨plain, all⟩, holds, ⟨plain', all'⟩, ?_, ?_⟩
      · rw [List.map_append, mergeAll_append]
      · rw [List.flatMap_append, List.append_nil]
  · rintro ⟨bs, runs, runs', ⟨plain, all⟩, holds, ⟨plain', all'⟩, rfl, rfl⟩
    refine Verdict.andThen_eq_ok_iff.2 ⟨mergeAll [] (runs.map (·.1)), _, _,
      round_eq_ok_iff.2 ⟨plain, runs, all, rfl, rfl⟩, ?_, List.flatMap_append⟩
    rw [holds]
    refine Verdict.andThen_eq_ok_iff.2 ⟨mergeAll (mergeAll [] (runs.map (·.1))) (runs'.map (·.1)), _,
      [], round_eq_ok_iff.2 ⟨plain', runs', all', rfl, rfl⟩, ?_, (List.append_nil _).symm⟩
    rw [List.map_append, mergeAll_append]
    rfl

/-- The blocks that hold of what the real children give, and the runs of all calls. -/
theorem evaluateBelow_eq_ok {b : Blame ε} {r : Registry} {answers : Answers} {ns : List Node}
    {type : String} {v w : Value} {path : Path} {log : List Journal.Event}
    (h : evaluateBelow b r answers ns type v path = .ok (w, log)) :
    ∃ (bs : List Placed) (runs runs' : List (Value × List Journal.Event)),
      holding (mergeAll [] (runs.map (·.1))) (conditional path ns) = .ok bs ∧
      (real path ns).map (evaluateAt b r answers type v) = runs.map .ok ∧
      (called path ns bs).map (evaluateAt b r answers type v) = (runs ++ runs').map .ok ∧
      w = .object (mergeAll [] ((runs ++ runs').map (·.1))) ∧
      log = (runs ++ runs').flatMap (·.2) := by
  obtain ⟨bs, runs, runs', ⟨-, all⟩, holds, ⟨-, all'⟩, same, same'⟩ :=
    evaluateBelow_succeeds_iff.1 h
  refine ⟨bs, runs, runs', holds, all, ?_, same, same'⟩
  rw [called, List.map_append, List.map_append, all, all']

/-- An item of a list, evaluated. -/
def itemAt (type : String) (path : Path) (children : String → Value → Path → Verdict ε Value)
    (x : Value × Nat) : Verdict ε Value :=
  if x.1.isNull then .succeed .null else children type x.1 (path ++ [(x.2 : Int)])

/-- **What a resolver returned, evaluated with success**: null stays, the items of a list stand side by
side, and anything else has children. -/
theorem descend_eq_ok_iff {b : Blame ε} {type : Descriptor} {path : Path}
    {children : String → Value → Path → Verdict ε Value} {v w : Value} {log : List Journal.Event} :
    descend b type path children v = .ok (w, log) ↔
      if v.isNull then w = .null ∧ log = []
      else if type.isArray then
        ∃ runs : List (Value × List Journal.Event),
          (v.items?.getD []).zipIdx.map (itemAt type.name path children) = runs.map .ok ∧
            w = .list (runs.map (·.1)) ∧ log = runs.flatMap (·.2)
      else children type.name v path = .ok (w, log) := by
  unfold descend
  by_cases null : v.isNull
  · rw [if_pos null, if_pos null]
    constructor
    · intro h
      cases h
      exact ⟨rfl, rfl⟩
    · rintro ⟨rfl, rfl⟩
      rfl
  · rw [if_neg null, if_neg null]
    by_cases array : type.isArray
    · rw [if_pos array, if_pos array, List.mapIdx_eq_zipIdx_map]
      exact each_andThen_eq_ok_iff
    · rw [if_neg array, if_neg array]

/-- What a resolver returned, checked and evaluated with success. -/
theorem complete_eq_ok_iff {b : Blame ε} {name : String} {type : Descriptor} {hasChildren : Bool}
    {path : Path} {children : String → Value → Path → Verdict ε Value} {v w : Value}
    {log : List Journal.Event} :
    complete b name type hasChildren path children v = .ok (w, log) ↔
      if type.isNative then
        Check.nativeResult type hasChildren v = .ok () ∧ w = .single name v ∧ log = []
      else
        Check.customResult type hasChildren v = .ok () ∧
          ∃ x, descend b type path children v = .ok (x, log) ∧ w = .single name x := by
  unfold complete
  by_cases native : type.isNative
  · rw [if_pos native, if_pos native]
    cases Check.nativeResult type hasChildren v with
    | error f => exact ⟨nofun, fun h => nomatch h.1⟩
    | ok _ =>
      constructor
      · intro h
        cases h
        exact ⟨rfl, rfl, rfl⟩
      · rintro ⟨-, rfl, rfl⟩
        rfl
  · rw [if_neg native, if_neg native]
    cases Check.customResult type hasChildren v with
    | error f => exact ⟨nofun, fun h => nomatch h.1⟩
    | ok _ =>
      constructor
      · intro h
        obtain ⟨x, own, more, found, rest, rfl⟩ := Verdict.andThen_eq_ok_iff.1 h
        cases rest
        rw [List.append_nil]
        exact ⟨rfl, x, found, rfl⟩
      · rintro ⟨-, x, found, rfl⟩
        exact Verdict.andThen_eq_ok_iff.2 ⟨x, log, [], found, rfl, (List.append_nil _).symm⟩

/-- **A call of a field, evaluated with success**: it is logged; if its resolver fails it has null, and
else what the resolver returned comes to. -/
theorem callField_eq_ok_iff {b : Blame ε} {r : Registry} {answers : Answers} {name : String}
    {args : Option (Table Value)} {hasChildren : Bool} {owner : String} {data : Value} {path : Path}
    {children : String → Value → Path → Verdict ε Value} {w : Value} {log : List Journal.Event} :
    callField b r answers name args hasChildren owner data path children = .ok (w, log) ↔
      ∃ f, r.field? owner name = some f ∧ checkCall r name args f = .ok () ∧
        ∃ more, log = record ⟨owner, name, path, args.getD [], data⟩
            (answers owner name (args.getD []) data) ++ more ∧
          match answers owner name (args.getD []) data with
          | .error _ => w = .single name .null ∧ more = []
          | .ok v => complete b name f.type hasChildren path children v = .ok (w, more) := by
  unfold callField
  cases r.field? owner name with
  | none =>
    constructor
    · intro h
      cases h
    · rintro ⟨_, h, _⟩
      cases h
  | some f =>
    simp only [Option.some.injEq, exists_eq_left']
    cases checkCall r name args f with
    | error e =>
      constructor
      · intro h
        cases h
      · rintro ⟨h, _⟩
        cases h
    | ok _ =>
      simp only [true_and]
      cases answers owner name (args.getD []) data with
      | error failure =>
        constructor
        · intro h
          cases h
          exact ⟨[], (List.append_nil _).symm, rfl, rfl⟩
        · rintro ⟨more, rfl, rfl, rfl⟩
          rfl
      | ok v =>
        constructor
        · intro h
          obtain ⟨_, own, more, found, rest, rfl⟩ := Verdict.andThen_eq_ok_iff.1 h
          cases found
          exact ⟨more, rfl, rest⟩
        · rintro ⟨more, rfl, rest⟩
          exact Verdict.andThen_eq_ok_iff.2 ⟨(), _, more, rfl, rest, rfl⟩

theorem callField_of_error {b : Blame ε} {r : Registry} {answers : Answers} {name : String}
    {args : Option (Table Value)} {hasChildren : Bool} {owner : String} {data : Value} {path : Path}
    {children : String → Value → Path → Verdict ε Value} {f : Field} {failure : Failure}
    (found : r.field? owner name = some f) (checked : checkCall r name args f = .ok ())
    (failed : answers owner name (args.getD []) data = .error failure) :
    callField b r answers name args hasChildren owner data path children =
      .ok (.single name .null, record ⟨owner, name, path, args.getD [], data⟩ (.error failure)) := by
  refine callField_eq_ok_iff.2 ⟨f, found, checked, [], ?_⟩
  rw [failed]
  exact ⟨(List.append_nil _).symm, rfl, rfl⟩

theorem callField_of_ok {b : Blame ε} {r : Registry} {answers : Answers} {name : String}
    {args : Option (Table Value)} {hasChildren : Bool} {owner : String} {data : Value} {path : Path}
    {children : String → Value → Path → Verdict ε Value} {f : Field} {v w : Value}
    {more : List Journal.Event} (found : r.field? owner name = some f)
    (checked : checkCall r name args f = .ok ())
    (returned : answers owner name (args.getD []) data = .ok v)
    (completes : complete b name f.type hasChildren path children v = .ok (w, more)) :
    callField b r answers name args hasChildren owner data path children =
      .ok (w, record ⟨owner, name, path, args.getD [], data⟩ (.ok v) ++ more) := by
  refine callField_eq_ok_iff.2 ⟨f, found, checked, more, ?_⟩
  rw [returned]
  exact ⟨rfl, completes⟩

/-- **A composition, evaluated with success.** -/
theorem evaluate_compose_eq_ok_iff {b : Blame ε} {r : Registry} {answers : Answers}
    {args : Option (Table Value)} {children : List Node} {owner : String} {data : Value}
    {path : Path} {w : Value} {log : List Journal.Event} :
    evaluate b r answers (.mk Node.composeName args children) owner data path = .ok (w, log) ↔
      ∃ runs : List (Value × List Journal.Event),
        (placed path children).map (evaluateAt b r answers owner data) = runs.map .ok ∧
          w = .list (runs.map (·.1)) ∧ log = runs.flatMap (·.2) := by
  rw [evaluate_compose]
  exact each_andThen_eq_ok_iff

/-- The children of a call, if there are no conditional blocks: one round. -/
theorem evaluateBelow_plain (b : Blame ε) (r : Registry) (answers : Answers) {ns : List Node}
    (noWhen : ∀ c ∈ ns, c.isWhen = false) (type : String) (v : Value) (path : Path) :
    evaluateBelow b r answers ns type v path = (round b (ns.any Node.isCompose)
      ((placed path ns).map (evaluateAt b r answers type v)) []).andThen
        fun output => .succeed (.object output) := by
  rw [evaluateBelow, real_eq_placed noWhen, conditional_eq_nil noWhen, any_placed path ns]
  rfl

/-- The children of a call, evaluated with success, if there are no conditional blocks. -/
theorem evaluateBelow_eq_ok_iff {b : Blame ε} {r : Registry} {answers : Answers} {ns : List Node}
    {type : String} {v w : Value} {path : Path} {log : List Journal.Event}
    (noWhen : ∀ c ∈ ns, c.isWhen = false) :
    evaluateBelow b r answers ns type v path = .ok (w, log) ↔
      (∀ c ∈ ns, c.isCompose = false) ∧ ∃ runs : List (Value × List Journal.Event),
        (placed path ns).map (evaluateAt b r answers type v) = runs.map .ok ∧
          w = .object (mergeAll [] (runs.map (·.1))) ∧ log = runs.flatMap (·.2) := by
  have composes : ns.any Node.isCompose = false ↔ ∀ c ∈ ns, c.isCompose = false := by
    rw [List.any_eq_false]
    simp only [Bool.not_eq_true]
  rw [evaluateBelow_plain b r answers noWhen, Verdict.andThen_eq_ok_iff]
  constructor
  · rintro ⟨output, own, more, found, rest, rfl⟩
    obtain ⟨noCompose, runs, all, rfl, rfl⟩ := round_eq_ok_iff.1 found
    cases rest
    exact ⟨composes.1 noCompose, runs, all, rfl, List.append_nil _⟩
  · rintro ⟨noCompose, runs, all, rfl, rfl⟩
    exact ⟨mergeAll [] (runs.map (·.1)), _, [], round_eq_ok_iff.2
      ⟨composes.2 noCompose, runs, all, rfl, rfl⟩, rfl, (List.append_nil _).symm⟩

/-- The result of a call that is no composition has one key. -/
theorem single_of_evaluate {b : Blame ε} {r : Registry} {answers : Answers} {n : Node}
    {owner : String} {data v : Value} {path : Path} {log : List Journal.Event}
    (h : evaluate b r answers n owner data path = .ok (v, log)) (field : n.isCompose = false) :
    ∃ w, v = .single n.name w := by
  obtain ⟨name, args, children⟩ := n
  have compose : name ≠ Node.composeName := of_decide_eq_false field
  by_cases when : name = Node.whenName
  · subst when
    rw [evaluate_when] at h
    cases h
  · rw [evaluate_field _ _ _ _ _ _ _ _ compose when] at h
    obtain ⟨f, -, -, more, -, rest⟩ := callField_eq_ok_iff.1 h
    split at rest
    · exact ⟨_, rest.1⟩
    · rw [complete_eq_ok_iff] at rest
      split at rest
      · exact ⟨_, rest.2.1⟩
      · obtain ⟨-, x, -, same⟩ := rest
        exact ⟨x, same⟩

theorem checkCall_congr {r r' : Registry} (alike : r.Alike r') {name : String}
    {args : Option (Table Value)} {f f' : Field} (type : f'.type = f.type) (expect : f'.expect = f.expect) :
    checkCall r' name args f' = checkCall r name args f := by
  unfold checkCall Check.declared
  rw [type, expect, alike.types]

/-! ## Evaluations side by side -/

/-- **A relation of verdicts that evaluation keeps**: it holds of the same faults and results, and goes
along with the two ways of putting verdicts together. -/
structure Kept (b : Blame ε) (b' : Blame ε')
    (R : ∀ {α : Type}, Verdict ε α → Verdict ε' α → Prop) : Prop where
  blame : ∀ {α : Type} (e : Abort), R (blame b e : Verdict ε α) (blame b' e)
  ok : ∀ {α : Type} (x : α × List Journal.Event), R (.ok x) (.ok x)
  andThen : ∀ {α β : Type} {v : Verdict ε α} {v' : Verdict ε' α} {k : α → Verdict ε β}
    {k' : α → Verdict ε' β}, R v v' → (∀ a, R (k a) (k' a)) → R (v.andThen k) (v'.andThen k')
  each : ∀ {α β : Type} {entries : List β} {v : β → Verdict ε α} {v' : β → Verdict ε' α},
    (∀ x ∈ entries, R (v x) (v' x)) → R (each b (entries.map v)) (each b' (entries.map v'))

namespace Kept

variable {b : Blame ε} {b' : Blame ε'} {R : ∀ {α : Type}, Verdict ε α → Verdict ε' α → Prop}
variable {r r' : Registry} {answers : Answers}

theorem round (kept : Kept b b' R) {composes : Bool} {entries : List β} {v : β → Verdict ε Value}
    {v' : β → Verdict ε' Value} {output : Table Value} (h : ∀ x ∈ entries, R (v x) (v' x)) :
    R (round b composes (entries.map v) output) (round b' composes (entries.map v') output) := by
  unfold Sequential.round
  by_cases inside : composes
  · rw [if_pos inside, if_pos inside]
    exact kept.blame _
  · rw [if_neg inside, if_neg inside]
    exact kept.andThen (kept.each h) fun _ => kept.ok _

theorem descend (kept : Kept b b' R) {type : Descriptor} {path : Path}
    {children : String → Value → Path → Verdict ε Value}
    {children' : String → Value → Path → Verdict ε' Value} {v : Value}
    (below : ∀ data path, R (children type.name data path) (children' type.name data path)) :
    R (descend b type path children v) (descend b' type path children' v) := by
  unfold Sequential.descend
  by_cases null : v.isNull
  · rw [if_pos null, if_pos null]
    exact kept.ok _
  · rw [if_neg null, if_neg null]
    by_cases array : type.isArray
    · rw [if_pos array, if_pos array]
      simp only [List.mapIdx_eq_zipIdx_map]
      refine kept.andThen (kept.each ?_) fun _ => kept.ok _
      intro item _
      by_cases none : item.1.isNull
      · rw [if_pos none, if_pos none]
        exact kept.ok _
      · rw [if_neg none, if_neg none]
        exact below _ _
    · rw [if_neg array, if_neg array]
      exact below v path

theorem complete (kept : Kept b b' R) {name : String} {type : Descriptor} {hasChildren : Bool}
    {path : Path} {children : String → Value → Path → Verdict ε Value}
    {children' : String → Value → Path → Verdict ε' Value} {v : Value}
    (below : ∀ data path, R (children type.name data path) (children' type.name data path)) :
    R (complete b name type hasChildren path children v)
      (complete b' name type hasChildren path children' v) := by
  unfold Sequential.complete
  by_cases native : type.isNative
  · rw [if_pos native, if_pos native]
    cases Check.nativeResult type hasChildren v with
    | error f => exact kept.blame _
    | ok _ => exact kept.ok _
  · rw [if_neg native, if_neg native]
    cases Check.customResult type hasChildren v with
    | error f => exact kept.blame _
    | ok _ => exact kept.andThen (kept.descend below) fun _ => kept.ok _

theorem evaluateBelow (kept : Kept b b' R) {ns : List Node} {type : String} {v : Value}
    {path : Path}
    (children : ∀ c ∈ ns, ∀ path, R (evaluate b r answers c type v path)
      (evaluate b' r' answers c type v path))
    (inBlocks : ∀ d ∈ ns, ∀ c ∈ d.children, ∀ path, R (evaluate b r answers c type v path)
      (evaluate b' r' answers c type v path)) :
    R (evaluateBelow b r answers ns type v path) (evaluateBelow b' r' answers ns type v path) := by
  unfold Sequential.evaluateBelow
  apply kept.andThen (kept.round fun c mem => children c.2 (mem_of_real mem) c.1)
  intro output
  cases holds : holding output (conditional path ns) with
  | error f => exact kept.blame _
  | ok bs =>
    refine kept.andThen (kept.round ?_) fun _ => kept.ok _
    intro c mem
    obtain ⟨d, hd, inside⟩ := mem_of_inside holds mem
    exact inBlocks d hd c.2 inside c.1

/-- **Evaluation keeps the relation**, also between registries that differ in their resolvers. -/
theorem evaluate (kept : Kept b b' R) (alike : r.Alike r') (n : Node) :
    ∀ owner data path, R (evaluate b r answers n owner data path)
      (evaluate b' r' answers n owner data path) := by
  induction n using Node.induct with
  | compose args children ih =>
    intro owner data path
    rw [evaluate_compose, evaluate_compose]
    exact kept.andThen (kept.each fun c mem => ih c.2 (mem_of_placed mem) owner data c.1)
      fun _ => kept.ok _
  | when args children =>
    intro owner data path
    rw [evaluate_when, evaluate_when]
    exact kept.blame _
  | field name args children noCompose noWhen ih ihBlocks =>
    intro owner data path
    rw [evaluate_field _ _ _ _ _ _ _ _ noCompose noWhen,
      evaluate_field _ _ _ _ _ _ _ _ noCompose noWhen, callField, callField]
    cases found : r.field? owner name with
    | none =>
      rw [alike.field?_eq_none found]
      exact kept.blame _
    | some f =>
      obtain ⟨f', found', type, expect⟩ := alike.exists_field found
      rw [found']
      simp only
      rw [checkCall_congr alike type expect, type]
      cases checkCall r name args f with
      | error e => exact kept.blame _
      | ok _ =>
        simp only
        cases answers owner name (args.getD []) data with
        | error failure => exact kept.ok _
        | ok v =>
          refine kept.andThen (kept.ok _) fun () => ?_
          refine kept.complete fun data path => kept.evaluateBelow
            (fun c mem path => ih c mem _ data path) fun d mem c inside path => ?_
          exact ihBlocks d mem c inside _ data path

end Kept

/-- `Transfers v v'`: what `v` succeeds with, `v'` does. -/
def Transfers {α : Type} (v : Verdict ε α) (v' : Verdict ε' α) : Prop := ∀ x, v = .ok x → v' = .ok x

theorem Transfers.map_eq_ok {entries : List β} {v : β → Verdict ε α} {v' : β → Verdict ε' α}
    (h : ∀ x ∈ entries, Transfers (v x) (v' x)) {runs : List (α × List Journal.Event)}
    (all : entries.map v = runs.map .ok) : entries.map v' = runs.map .ok := by
  induction entries generalizing runs with
  | nil =>
    rw [List.eq_nil_of_map_eq_nil all.symm]
    rfl
  | cons x rest ih =>
    cases runs with
    | nil => cases all
    | cons run runs =>
      rw [List.map_cons, List.map_cons, List.cons.injEq] at all
      have first := h x List.mem_cons_self run all.1
      have others := ih (fun y mem => h y (List.mem_cons_of_mem _ mem)) all.2
      rw [List.map_cons, List.map_cons, first, others]

theorem kept_transfers (b : Blame ε) (b' : Blame ε') : Kept b b' Transfers where
  blame _ := nofun
  ok _ := fun _ h => by
    cases h
    rfl
  andThen first second := by
    rintro ⟨c, log⟩ h
    obtain ⟨a, own, more, found, goesOn, rfl⟩ := Verdict.andThen_eq_ok_iff.1 h
    exact Verdict.andThen_eq_ok_iff.2 ⟨a, own, more, first _ found, second a _ goesOn, rfl⟩
  each := by
    rintro α β entries v v' h ⟨as, log⟩ found
    obtain ⟨runs, all, rfl, rfl⟩ := each_eq_ok_iff.1 found
    exact each_eq_ok_iff.2 ⟨runs, Transfers.map_eq_ok h all, rfl, rfl⟩

theorem kept_eq (b : Blame ε) : Kept b b fun v v' => v = v' where
  blame _ := rfl
  ok _ := rfl
  andThen first second := by rw [first, funext second]
  each h := by rw [List.map_congr_left h]

/-- **An evaluation succeeds whichever faults are told.** -/
theorem evaluate_blame {b : Blame ε} (b' : Blame ε') {r : Registry} {answers : Answers} {n : Node}
    {owner : String} {data : Value} {path : Path} {x : Value × List Journal.Event}
    (h : evaluate b r answers n owner data path = .ok x) :
    evaluate b' r answers n owner data path = .ok x :=
  (kept_transfers b b').evaluate ⟨fun _ _ => rfl, fun _ => rfl⟩ n owner data path x h

/-- **Resolvers do not matter beside their answers.** -/
theorem evaluate_congr {r r' : Registry} (alike : r.Alike r') (b : Blame ε) (answers : Answers)
    (n : Node) (owner : String) (data : Value) (path : Path) :
    evaluate b r answers n owner data path = evaluate b r' answers n owner data path :=
  (kept_eq b).evaluate alike n owner data path

end Sequential

end CallTree
