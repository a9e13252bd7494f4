/-
# CallTree.Proofs.Sequential.Survival — an evaluation under an outage, beside the one before it.

A call that succeeded before an outage succeeds under it (`survives_evaluate`): with its result blanked
where a call is struck, and with the failures of `Outage.log`. The induction needs to know which calls
of the whole request are at or below a position: those in the history of the call there (`Told`).
-/
import CallTree.Proofs.Check
import CallTree.Proofs.Sequential.Outage

namespace CallTree

namespace Sequential

open Journal Resolution

variable {ε β : Type} {b : Blame ε} {r r' : Registry} {answers : Answers} {o : Outage}
variable {calls : List Call}

/-! ## What is known at a position -/

/-- A history has exactly the calls at or below a position. -/
def Told (calls : List Call) (path : Path) (log : List Event) : Prop :=
  ∀ c, c ∈ startedIn log ↔ c ∈ calls ∧ path <+: c.path

/-- A history has exactly the calls strictly below a position. -/
def ToldBelow (calls : List Call) (path : Path) (log : List Event) : Prop :=
  ∀ c, c ∈ startedIn log ↔ c ∈ calls ∧ path.Above c.path

/-- No call at a position or above it is struck. -/
structure Clear (o : Outage) (calls : List Call) (path : Path) : Prop where
  above : o.covers calls path = false
  here : o.hits calls path = false

theorem hits_iff {p : Path} :
    o.hits calls p = true ↔ ∃ c ∈ calls, o.strikes c = true ∧ c.path = p := by
  simp [Outage.hits, List.any_eq_true]

theorem covers_iff {p : Path} :
    o.covers calls p = true ↔ ∃ c ∈ calls, o.strikes c = true ∧ c.path.Above p := by
  simp [Outage.covers, List.any_eq_true]

/-- What is right below a clear position is not below a struck call. -/
theorem Clear.concat {path : Path} (clear : Clear o calls path) (i : Int) :
    o.covers calls (path ++ [i]) = false := by
  apply Bool.eq_false_iff.2
  intro covered
  obtain ⟨c, mem, strikes, above⟩ := covers_iff.1 covered
  rcases above.of_concat with here | above
  · exact Bool.eq_false_iff.1 clear.here (hits_iff.2 ⟨c, mem, strikes, here⟩)
  · exact Bool.eq_false_iff.1 clear.above (covers_iff.2 ⟨c, mem, strikes, above⟩)

/-- If all calls at or below a position are strictly below it, it is clear. -/
theorem Told.clear {path : Path} {log : List Event} (told : Told calls path log)
    (within : Within path log) (above : o.covers calls path = false) :
    Clear o calls path ∧ ToldBelow calls path log := by
  have strictly (c : Call) (mem : c ∈ startedIn log) : path.Above c.path :=
    within.below _ (mem_startedIn.1 mem)
  refine ⟨⟨above, Bool.eq_false_iff.2 ?_⟩, ?_⟩
  · intro hit
    obtain ⟨c, mem, -, here⟩ := hits_iff.1 hit
    have among := (told c).2 ⟨mem, here ▸ List.prefix_refl _⟩
    exact (strictly c among).2 here.symm
  · intro c
    exact ⟨fun mem => ⟨((told c).1 mem).1, strictly c mem⟩, fun ⟨mem, h⟩ => (told c).2 ⟨mem, h.1⟩⟩

/-- Of calls that are apart, each has its own part of the history. -/
theorem told_of_apart {place : β → Path} {entries : List β}
    (apart : entries.Pairwise fun x y => Path.Apart (place x) (place y)) {v : β → Verdict ε Value}
    (under : ∀ x ∈ entries, ∀ a log, v x = .ok (a, log) → Under (place x) log)
    {runs : List (Value × List Event)} (all : entries.map v = runs.map .ok) {path : Path}
    (below : ∀ x ∈ entries, path.Above (place x))
    (told : ToldBelow calls path (runs.flatMap (·.2))) {i : Nat} {x : β} {run : Value × List Event}
    (entry : entries[i]? = some x) (here : runs[i]? = some run) : Told calls (place x) run.2 := by
  have verdict {j : Nat} {y : β} {run : Value × List Event} (entry : entries[j]? = some y)
      (here : runs[j]? = some run) : Under (place y) run.2 :=
    under y (List.mem_of_getElem? entry) _ _ (eq_ok_of_getElem? all entry here)
  intro c
  constructor
  · intro mem
    have started := mem_startedIn.1 mem
    have among : c ∈ startedIn (runs.flatMap (·.2)) :=
      mem_startedIn.2 (List.mem_flatMap.2 ⟨run, List.mem_of_getElem? here, started⟩)
    exact ⟨((told c).1 among).1, (verdict entry here).below _ started⟩
  · rintro ⟨mem, prefixed⟩
    have among := (told c).2 ⟨mem, (below x (List.mem_of_getElem? entry)).extend prefixed⟩
    obtain ⟨run', hrun, started⟩ := List.mem_flatMap.1 (mem_startedIn.1 among)
    obtain ⟨j, bound, here'⟩ := List.mem_iff_getElem.1 hrun
    have lengths := length_of_all all
    have entry' : entries[j]? = some entries[j] := List.getElem?_eq_getElem (by omega)
    have prefixed' := (verdict entry' (here' ▸ List.getElem?_eq_getElem bound)).below _ started
    obtain ⟨bound', rfl⟩ := List.getElem?_eq_some_iff.1 entry
    rcases Nat.lt_trichotomy i j with lt | rfl | gt
    · exact absurd prefixed' ((List.pairwise_iff_getElem.1 apart i j _ _ lt).not_below prefixed)
    · obtain ⟨_, rfl⟩ := List.getElem?_eq_some_iff.1 here
      rw [here']
      exact mem_startedIn.2 started
    · exact absurd prefixed ((List.pairwise_iff_getElem.1 apart j i _ _ gt).not_below prefixed')

/-! ## Results with gaps -/

/-- What becomes of a success under an outage. -/
def Gapped (o : Outage) (calls : List Call) (gaps : Value → Value) (run : Value × List Event)
    (v : Verdict ε Value) : Prop :=
  ∃ log, v = .ok (gaps run.1, log) ∧ (failures log).Perm (o.log calls run.2)

theorem log_append (history later : List Event) :
    (o.log calls (history ++ later)).Perm (o.log calls history ++ o.log calls later) := by
  unfold Outage.log
  rw [failures_append, startedIn_append, List.filter_append, List.filter_append, List.map_append,
    List.append_assoc, List.append_assoc]
  exact (List.perm_append_comm_assoc _ _ _).append_left _

theorem log_perm {history history' : List Event} (same : history.Perm history') :
    (o.log calls history).Perm (o.log calls history') :=
  ((failures_perm same).filter _).append (((startedIn_perm same).filter _).map _)

/-- Side by side, each with its own gaps. -/
theorem each_gapped {entries : List β} {v v' : β → Verdict ε Value} {gaps : β → Value → Value}
    {runs : List (Value × List Event)} (all : entries.map v = runs.map .ok)
    (here : ∀ (i : Nat) (x : β) (run : Value × List Event), entries[i]? = some x →
      runs[i]? = some run → Gapped o calls (gaps x) run (v' x)) :
    ∃ runs' : List (Value × List Event), entries.map v' = runs'.map .ok ∧
      runs'.map (·.1) = List.zipWith gaps entries (runs.map (·.1)) ∧
      (failures (runs'.flatMap (·.2))).Perm (o.log calls (runs.flatMap (·.2))) := by
  induction entries generalizing runs with
  | nil =>
    rw [List.eq_nil_of_map_eq_nil all.symm]
    exact ⟨[], rfl, rfl, .refl _⟩
  | cons x rest ih =>
    cases runs with
    | nil => cases all
    | cons run runs =>
      rw [List.map_cons, List.map_cons, List.cons.injEq] at all
      obtain ⟨log, first, same⟩ := here 0 x run rfl rfl
      obtain ⟨runs', others, values, same'⟩ := ih all.2 fun i => here (i + 1)
      refine ⟨(gaps x run.1, log) :: runs', ?_, ?_, ?_⟩
      · rw [List.map_cons, List.map_cons, first, others]
      · rw [List.map_cons, List.map_cons, List.zipWith_cons_cons, values]
      · rw [List.flatMap_cons, List.flatMap_cons, failures_append]
        exact (same.append same').trans (log_append _ _).symm

/-! ## Call trees -/

/-- What is shown of a call: what it succeeded with before, it succeeds with under the outage, with
gaps. -/
def Survives (b : Blame ε) (r r' : Registry) (answers : Answers) (o : Outage) (calls : List Call)
    (n : Node) : Prop :=
  ∀ (owner : String) (data : Value) (path : Path) (run : Value × List Event),
    evaluate b r answers n owner data path = .ok run → Told calls path run.2 →
      o.covers calls path = false →
        Gapped o calls (blank (o.hits calls) n path) run
          (evaluate b r' (o.answers answers) n owner data path)

/-- What is shown of the children of a call. -/
def SurviveBelow (b : Blame ε) (r r' : Registry) (answers : Answers) (o : Outage)
    (calls : List Call) (ns : List Node) : Prop :=
  ∀ (type : String) (data : Value) (path : Path) (run : Value × List Event),
    evaluateBelow b r answers ns type data path = .ok run → ToldBelow calls path run.2 →
      Clear o calls path →
        Gapped o calls (Value.onObject fun fields => blankFields (o.hits calls) ns path 0 fields) run
          (evaluateBelow b r' (o.answers answers) ns type data path)

/-- The calls of a composition, or the children of a call, each with its own gaps. -/
theorem placed_gapped {ns : List Node} (survive : ∀ c ∈ ns, Survives b r r' answers o calls c)
    {owner : String} {data : Value} {path : Path} {runs : List (Value × List Event)}
    (all : (placed path ns).map (evaluateAt b r answers owner data) = runs.map .ok)
    (told : ToldBelow calls path (runs.flatMap (·.2))) (clear : Clear o calls path) :
    ∃ runs' : List (Value × List Event),
      (placed path ns).map (evaluateAt b r' (o.answers answers) owner data) = runs'.map .ok ∧
      runs'.map (·.1) = List.zipWith (fun c v => blank (o.hits calls) c.2 c.1 v) (placed path ns)
        (runs.map (·.1)) ∧
      (failures (runs'.flatMap (·.2))).Perm (o.log calls (runs.flatMap (·.2))) := by
  apply each_gapped all
  intro i c run entry here
  have mem := List.mem_of_getElem? entry
  have part := told_of_apart (allApart_placed path ns)
    (fun c _ => under_evaluate c.2 owner data c.1) all (fun c mem => above_of_placed mem) told
    entry here
  have verdict := eq_ok_of_getElem? all entry here
  obtain ⟨j, -, position⟩ := exists_of_mem_placedFrom mem
  have uncovered : o.covers calls c.1 = false := position ▸ clear.concat j
  exact survive c.2 (mem_of_placed mem) owner data c.1 run verdict part uncovered

/-- The results of children are the fields of an object. -/
theorem exists_fields {ns : List Node} (noCompose : ∀ c ∈ ns, c.isCompose = false) {type : String}
    {data : Value} {path : Path} {runs : List (Value × List Event)}
    (all : (placed path ns).map (evaluateAt b r answers type data) = runs.map .ok) :
    ∃ fields : Table Value, fields.keys = ns.map Node.name ∧
      runs.map (·.1) = fields.map fun e => .single e.1 e.2 := by
  have lengths : runs.length = ns.length := (length_of_all all).trans (length_placed path ns)
  apply exists_entries (by rw [List.length_map, List.length_map, lengths])
  intro i name v call value
  rw [List.getElem?_map, Option.map_eq_some_iff] at value
  obtain ⟨run, here, rfl⟩ := value
  rw [← map_snd_placed path ns, List.map_map, List.getElem?_map, Option.map_eq_some_iff] at call
  obtain ⟨c, entry, rfl⟩ := call
  have verdict := eq_ok_of_getElem? all entry here
  exact single_of_evaluate verdict (noCompose c.2 (mem_of_placed (List.mem_of_getElem? entry)))

/-- The fields of an object, merged one after the other, are that object. -/
theorem mergeAll_fields {fields : Table Value} (once : fields.keys.Nodup) :
    mergeAll [] (fields.map fun e => .single e.1 e.2) = fields := by
  rw [mergeAll_singles, Table.merge_of_nodup (t := []) once, List.nil_append]

/-- **The children of a call** under an outage: the object with gaps. -/
theorem survive_below {ns : List Node} (survive : ∀ c ∈ ns, Survives b r r' answers o calls c)
    (noWhen : ∀ c ∈ ns, c.isWhen = false) (distinct : (ns.map Node.name).Nodup) :
    SurviveBelow b r r' answers o calls ns := by
  intro type data path run found told clear
  obtain ⟨w, log⟩ := run
  obtain ⟨noCompose, runs, all, rfl, rfl⟩ := (evaluateBelow_eq_ok_iff noWhen).1 found
  obtain ⟨runs', all', values, same⟩ := placed_gapped survive all told clear
  refine ⟨_, (evaluateBelow_eq_ok_iff noWhen).2 ⟨noCompose, runs', all', ?_, rfl⟩, same⟩
  obtain ⟨fields, names, entered⟩ := exists_fields noCompose all
  obtain ⟨names', gaps⟩ := blankFields_eq (o.hits calls) ns path 0 fields names fun c mem =>
    of_decide_eq_false (noCompose c mem)
  rw [values, entered, placed, ← gaps, mergeAll_fields (names ▸ distinct),
    mergeAll_fields (names' ▸ distinct), Value.onObject]

/-- **The items of a list** under an outage: the list of the objects with gaps. -/
theorem items_gapped {type : String} {ns : List Node} {path : Path}
    (below : SurviveBelow b r r' answers o calls ns) {items : List Value}
    {runs : List (Value × List Event)}
    (all : items.zipIdx.map (itemAt type path (evaluateBelow b r answers ns)) = runs.map .ok)
    (told : ToldBelow calls path (runs.flatMap (·.2))) (clear : Clear o calls path) :
    ∃ runs' : List (Value × List Event),
      items.zipIdx.map (itemAt type path (evaluateBelow b r' (o.answers answers) ns)) =
        runs'.map .ok ∧
      .list (runs'.map (·.1)) = (Value.list (runs.map (·.1))).overObjects
        (fun path fields => blankFields (o.hits calls) ns path 0 fields) path ∧
      (failures (runs'.flatMap (·.2))).Perm (o.log calls (runs.flatMap (·.2))) := by
  let gaps (x : Value × Nat) : Value → Value :=
    Value.onObject fun fields => blankFields (o.hits calls) ns (path ++ [(x.2 : Int)]) 0 fields
  have item (i : Nat) (x : Value × Nat) (run : Value × List Event)
      (entry : items.zipIdx[i]? = some x) (here : runs[i]? = some run) :
      Gapped o calls (gaps x) run (itemAt type path (evaluateBelow b r' (o.answers answers) ns) x) := by
    have verdict := eq_ok_of_getElem? all entry here
    have part := told_of_apart (apart_items path items)
      (fun x _ a log found => (within_itemAt (fun _ _ _ _ => within_evaluateBelow) found).under) all
      (fun x _ => path.above_concat x.2) told entry here
    unfold itemAt at verdict ⊢
    by_cases null : x.1.isNull
    · rw [if_pos null] at verdict ⊢
      cases verdict
      exact ⟨[], rfl, .refl _⟩
    · rw [if_neg null] at verdict ⊢
      obtain ⟨clear', told'⟩ := part.clear (within_evaluateBelow verdict) (clear.concat x.2)
      exact below _ _ _ _ verdict told' clear'
  obtain ⟨runs', all', values, same⟩ := each_gapped all item
  refine ⟨runs', all', ?_, same⟩
  have lengths : runs.length = items.length := (length_of_all all).trans List.length_zipIdx
  rw [values, Value.overObjects]
  refine congrArg Value.list (List.ext_getElem (by simp [lengths]) ?_)
  intro i _ _
  simp [gaps]

/-- What a resolver returned comes to under an outage. -/
theorem descend_gapped {type : Descriptor} {ns : List Node} {path : Path} {v : Value}
    (below : SurviveBelow b r r' answers o calls ns) {run : Value × List Event}
    (found : descend b type path (evaluateBelow b r answers ns) v = .ok run)
    (told : ToldBelow calls path run.2) (clear : Clear o calls path) :
    Gapped o calls
      (Value.overObjects (fun path fields => blankFields (o.hits calls) ns path 0 fields) path) run
      (descend b type path (evaluateBelow b r' (o.answers answers) ns) v) := by
  obtain ⟨w, log⟩ := run
  rw [descend_eq_ok_iff] at found
  unfold Gapped
  simp only [descend_eq_ok_iff]
  by_cases null : v.isNull
  · rw [if_pos null] at found
    obtain ⟨rfl, rfl⟩ := found
    simp only [if_pos null]
    exact ⟨[], ⟨rfl, rfl⟩, .refl _⟩
  · rw [if_neg null] at found
    simp only [if_neg null]
    by_cases array : type.isArray
    · rw [if_pos array] at found
      simp only [if_pos array]
      obtain ⟨runs, all, rfl, rfl⟩ := found
      obtain ⟨runs', all', values, same⟩ := items_gapped below all told clear
      exact ⟨_, ⟨runs', all', values.symm, rfl⟩, same⟩
    · rw [if_neg array] at found
      simp only [if_neg array]
      obtain ⟨log', found', same⟩ := below _ _ _ _ found told clear
      obtain ⟨_, _, _, _, _, _, rfl, _⟩ := evaluateBelow_eq_ok found
      exact ⟨log', found', same⟩

/-- What a resolver returned, checked, comes to under an outage. -/
theorem complete_gapped {name : String} {type : Descriptor} {ns : List Node} {path : Path}
    {v : Value} (below : SurviveBelow b r r' answers o calls ns) {run : Value × List Event}
    (found : complete b name type (!ns.isEmpty) path (evaluateBelow b r answers ns) v = .ok run)
    (told : ToldBelow calls path run.2) (clear : Clear o calls path) :
    ∃ x, run.1 = .single name x ∧
      Gapped o calls (fun _ => .single name
          (x.overObjects (fun path fields => blankFields (o.hits calls) ns path 0 fields) path)) run
        (complete b name type (!ns.isEmpty) path (evaluateBelow b r' (o.answers answers) ns) v) := by
  obtain ⟨w, log⟩ := run
  rw [complete_eq_ok_iff] at found
  unfold Gapped
  simp only [complete_eq_ok_iff]
  by_cases native : type.isNative
  · rw [if_pos native] at found
    simp only [if_pos native]
    obtain ⟨passed, rfl, rfl⟩ := found
    have none : ns = [] := by simpa using (Check.nativeResult_eq_ok_iff.1 passed).1
    subst none
    refine ⟨v, rfl, [], ⟨passed, ?_, rfl⟩, .refl _⟩
    rw [overObjects_blankFields_nil]
  · rw [if_neg native] at found
    simp only [if_neg native]
    obtain ⟨passed, x, descended, rfl⟩ := found
    obtain ⟨log', descended', same⟩ := descend_gapped below descended told clear
    exact ⟨x, rfl, log', ⟨passed, _, descended', rfl⟩, same⟩

/-- What is told of a call alone. -/
theorem startedIn_record (call : Call) (outcome : Except Failure Value) (more : List Event) :
    startedIn (record call outcome ++ more) = call :: startedIn more := rfl

/-- **A struck call** is null, and what is below it is not told any more. -/
theorem log_struck {call : Call} {v : Value} {more : List Event} (strikes : o.strikes call = true)
    (mem : call ∈ calls) (uncovered : o.covers calls call.path = false)
    (within : Within call.path more) :
    o.log calls (record call (.ok v) ++ more) = [o.report call] := by
  have covered {p : Path} (above : call.path.Above p) : o.covers calls p = true :=
    covers_iff.2 ⟨call, mem, strikes, above⟩
  have noFailure : (failures more).filter (fun f => !o.covers calls f.path) = [] := by
    apply List.filter_eq_nil_iff.2
    intro f hf
    obtain ⟨e, he, position⟩ := exists_of_mem_failures hf
    rw [covered (position ▸ within.below e he)]
    exact Bool.false_ne_true
  have noCall : (startedIn more).filter (fun c => o.strikes c && !o.covers calls c.path) = [] := by
    apply List.filter_eq_nil_iff.2
    intro c hc
    have above : call.path.Above c.path := within.below _ (mem_startedIn.1 hc)
    rw [covered above, Bool.not_true, Bool.and_false]
    exact Bool.false_ne_true
  have own : failures (record call (.ok v)) = [] := rfl
  rw [Outage.log, failures_append, own, List.nil_append, noFailure, startedIn_record,
    List.filter_cons, strikes, uncovered, noCall]
  rfl

/-- A call that is not struck, and not below one that is, keeps its entry. -/
theorem log_record {call : Call} {outcome : Except Failure Value} (spared : o.strikes call = false)
    (uncovered : o.covers calls call.path = false) :
    o.log calls (record call outcome) = failures (record call outcome) := by
  have noCall : (startedIn (record call outcome)).filter
      (fun c => o.strikes c && !o.covers calls c.path) = [] := by
    apply List.filter_eq_nil_iff.2
    intro c hc
    rw [List.mem_singleton.1 hc, spared]
    exact Bool.false_ne_true
  rw [Outage.log, noCall, List.map_nil, List.append_nil]
  apply List.filter_eq_self.2
  intro f hf
  obtain ⟨e, he, position⟩ := exists_of_mem_failures hf
  have here : e.call = call := by
    simp only [record, List.mem_cons, List.not_mem_nil, or_false] at he
    rcases he with rfl | rfl <;> rfl
  rw [← position, here, uncovered]
  rfl

/-- What is below a call is told of strictly below it. -/
theorem within_completed {name : String} {type : Descriptor} {hasChildren : Bool} {path : Path}
    {ns : List Node} {v : Value} {run : Value × List Event}
    (found : complete b name type hasChildren path (evaluateBelow b r answers ns) v = .ok run) :
    Within path run.2 :=
  within_complete (fun _ _ _ _ => within_evaluateBelow) found

theorem answers_of_strikes {call : Call} (strikes : o.strikes call = true) :
    o.answers answers call.owner call.field call.args call.data =
      .error (o.failure call.args call.data) :=
  if_pos strikes

theorem answers_of_spared {call : Call} (spared : o.strikes call = false) :
    o.answers answers call.owner call.field call.args call.data =
      answers call.owner call.field call.args call.data :=
  if_neg (Bool.eq_false_iff.1 spared)

/-- The resolver of a struck call returned before. -/
theorem exists_of_strikes
    (returned : ∀ args data, o.struck args data = true → ∃ v, answers o.owner o.field args data = .ok v)
    {call : Call} (strikes : o.strikes call = true) :
    ∃ v, answers call.owner call.field call.args call.data = .ok v := by
  simp only [Outage.strikes, Bool.and_eq_true, decide_eq_true_eq] at strikes
  obtain ⟨⟨owner, field⟩, struck⟩ := strikes
  rw [owner, field]
  exact returned _ _ struck

/-- Only one call is at its position. -/
theorem eq_of_told {call : Call} {outcome : Except Failure Value} {more : List Event}
    (told : Told calls call.path (record call outcome ++ more)) (within : Within call.path more)
    {c : Call} (mem : c ∈ calls) (here : c.path = call.path) : c = call := by
  have among := (told c).2 ⟨mem, here ▸ List.prefix_refl _⟩
  rw [startedIn_record] at among
  rcases List.mem_cons.1 among with same | below
  · exact same
  · exact absurd here.symm (within.below _ (mem_startedIn.1 below)).2

/-- What is right below a call that is not struck. -/
theorem Told.below_record {call : Call} {outcome : Except Failure Value} {more : List Event}
    (told : Told calls call.path (record call outcome ++ more)) (within : Within call.path more)
    (spared : o.strikes call = false) (uncovered : o.covers calls call.path = false) :
    Clear o calls call.path ∧ ToldBelow calls call.path more := by
  refine ⟨⟨uncovered, Bool.eq_false_iff.2 ?_⟩, fun c => ⟨?_, ?_⟩⟩
  · intro hit
    obtain ⟨c, mem, strikes, here⟩ := hits_iff.1 hit
    rw [eq_of_told told within mem here, spared] at strikes
    cases strikes
  · intro mem
    have among : c ∈ startedIn (record call outcome ++ more) := List.mem_cons_of_mem _ mem
    exact ⟨((told c).1 among).1, within.below _ (mem_startedIn.1 mem)⟩
  · rintro ⟨mem, h⟩
    rcases List.mem_cons.1 ((told c).2 ⟨mem, h.1⟩) with rfl | below
    · exact absurd rfl h.2
    · exact below

/-- **A call of a field** under an outage. -/
theorem survive_field {name : String} {args : Option (Table Value)} {children : List Node}
    (alike : r.Alike r') (below : SurviveBelow b r r' answers o calls children)
    (returned : ∀ args data, o.struck args data = true → ∃ v, answers o.owner o.field args data = .ok v)
    (compose : name ≠ Node.composeName) (when : name ≠ Node.whenName) :
    Survives b r r' answers o calls (.mk name args children) := by
  intro owner data path run found told uncovered
  obtain ⟨w, log⟩ := run
  rw [evaluate_field _ _ _ _ _ _ _ _ compose when] at found ⊢
  obtain ⟨f, field, checked, more, rfl, rest⟩ := callField_eq_ok_iff.1 found
  obtain ⟨f', found', type, expect⟩ := alike.exists_field field
  have checked' : checkCall r' name args f' = .ok () := by
    rw [checkCall_congr alike type expect, checked]
  let call : Call := ⟨owner, name, path, args.getD [], data⟩
  have answered (strikes : o.strikes call = true) :
      o.answers answers owner name (args.getD []) data = .error (o.failure (args.getD []) data) :=
    answers_of_strikes strikes
  have spares (spared : o.strikes call = false) :
      o.answers answers owner name (args.getD []) data = answers owner name (args.getD []) data :=
    answers_of_spared spared
  cases result : answers owner name (args.getD []) data with
  | error failure =>
    rw [result] at rest told
    obtain ⟨rfl, rfl⟩ := rest
    -- What used to fail is not struck.
    have spared : o.strikes call = false := Bool.eq_false_iff.2 fun strikes => by
      obtain ⟨v, ok⟩ := exists_of_strikes returned strikes
      rw [show answers owner name (args.getD []) data = .ok v from ok] at result
      cases result
    obtain ⟨clear, -⟩ := told.below_record (.nil path) spared uncovered
    have failed : o.answers answers owner name (args.getD []) data = .error failure := by
      rw [spares spared, result]
    refine ⟨record call (.error failure), ?_, ?_⟩
    · rw [callField_of_error found' checked' failed, blank_field _ _ _ _ _ compose, clear.here]
      rfl
    · rw [List.append_nil, log_record spared uncovered]
  | ok v =>
    rw [result] at rest told
    have within := within_completed rest
    cases strikes : o.strikes call with
    | true =>
      -- The call fails now, and all that was below it is gone.
      have own : call ∈ calls := ((told call).1 (by rw [startedIn_record]; exact List.mem_cons_self)).1
      have hit : o.hits calls path = true := hits_iff.2 ⟨call, own, strikes, rfl⟩
      refine ⟨record call (.error (o.failure (args.getD []) data)), ?_, ?_⟩
      · rw [callField_of_error found' checked' (answered strikes), blank, if_neg compose, if_pos hit]
      · rw [log_struck strikes own uncovered within]
        exact .refl _
    | false =>
      obtain ⟨clear, told'⟩ := told.below_record within strikes uncovered
      obtain ⟨x, rfl, log', completes, same⟩ := complete_gapped below rest told' clear
      refine ⟨record call (.ok v) ++ log', ?_, ?_⟩
      · rw [blank_field _ _ _ _ _ compose, clear.here]
        exact callField_of_ok found' checked' ((spares strikes).trans result) (type ▸ completes)
      · refine .trans ?_ (log_append _ _).symm
        rw [failures_append, log_record strikes uncovered]
        exact same.append_left _

/-- **An outage has local effects only.** What a call succeeded with before, it succeeds with under the
outage, with gaps where calls are struck. -/
theorem survives_evaluate {n : Node} (plain : n.Plain) (alike : r.Alike r')
    (returned : ∀ args data, o.struck args data = true → ∃ v, answers o.owner o.field args data = .ok v) :
    Survives b r r' answers o calls n := by
  induction n using Node.induct with
  | compose args children ih =>
    cases plain with
    | mk _ _ each =>
      intro owner data path run found told uncovered
      obtain ⟨w, log⟩ := run
      obtain ⟨runs, all, rfl, rfl⟩ := evaluate_compose_eq_ok_iff.1 found
      have within := within_composed (fun c _ => under_evaluate c owner data) all
      obtain ⟨clear, told'⟩ := told.clear within uncovered
      have survive (c : Node) (mem : c ∈ children) := ih c mem (each c mem)
      obtain ⟨runs', all', values, same⟩ := placed_gapped survive all told' clear
      have lengths : (runs.map (·.1)).length = children.length := by
        rw [List.length_map, length_of_all all, length_placed]
      refine ⟨_, evaluate_compose_eq_ok_iff.2 ⟨runs', all', ?_, rfl⟩, same⟩
      rw [blank_compose, blankEach_eq _ _ _ _ _ lengths, values]
      rfl
  | when args children =>
    cases plain with
    | mk noWhen _ _ => exact absurd rfl noWhen
  | field name args children noCompose noWhen ih _ =>
    cases plain with
    | mk _ distinct each =>
      have survive (c : Node) (mem : c ∈ children) := ih c mem (each c mem)
      have noBlock (c : Node) (mem : c ∈ children) : c.isWhen = false := by
        cases each c mem with
        | mk noWhen _ _ => exact decide_eq_false noWhen
      have below := survive_below survive noBlock (distinct noCompose)
      exact survive_field alike below returned noCompose noWhen

end Sequential

end CallTree
