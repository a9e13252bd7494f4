/-
# CallTree.Proofs.Execution.Selection — a selection is made of cells.

What a child of a custom-typed field gives on an item, and what is told of it, is one and the same
whichever other children are requested, whichever other items are returned, and whatever runs when: its
cell. So a field whose children have different names, and no conditional blocks among them, gives a row
of cells for each item (`Execution.cells_independent`), and a request for some of the children is answered
with their cells (`Execution.selection_answered`).

`Delivers` says of work that it comes to one value, with the same told of it in the same order,
whatever runs when.
-/
import CallTree.Proofs.Execution.Blocks
import CallTree.Proofs.Execution.Locality
import CallTree.Proofs.Sequential.Selection

namespace CallTree

open Journal CallTree.Sequential

/-- **Work that delivers a value**: it can come to that and to nothing else, with this to be told of its
failures; and whenever it is run to its end, in whatever journal, it comes to that. -/
structure Delivers (t : Work) (v : Value) (told : List (List String)) : Prop where
  comes : ∃ updates, t.Ends (.ok v) updates
  only : ∀ outcome updates, t.Ends outcome updates →
    outcome = .ok v ∧ Context.reports (failures (written updates)) = told
  answered : ∀ (j : Journal) (y : Lane Journal Abort Value × List Due),
    Lane.Reaches (Lane.begun t j) y → Lane.Finished y →
      ∃ (after : Journal) (failed : List FailedCall), y.1.answer = some ⟨.ok v, after⟩ ∧
        after.context.failures = j.context.failures ++ failed ∧ Context.reports failed = told

/-- **Work that meets a verdict that succeeds delivers** what the verdict is shown to come to, if its
failures are at different positions. -/
theorem Delivers.intro {t : Work} {verdict : Survey Value} (lively : t.Lively)
    (acts : t.Acts Journal.Step) (meets : Meets t verdict) {run : Value × List Event}
    (found : verdict = .ok run) (once : ((failures run.2).map FailedCall.path).Nodup) :
    Delivers t (shown run).1 (shown run).2 := by
  have only (outcome : Except Abort Value) (updates : List (Journal → Journal))
      (ends : t.Ends outcome updates) :
      outcome = .ok run.1 ∧ Context.reports (failures (written updates)) = (shown run).2 := by
    have allows := meets outcome updates ends
    rw [found] at allows
    cases outcome with
    | ok a =>
      obtain ⟨own, same, perm⟩ := allows
      cases same
      exact ⟨rfl, (Context.reports_eq_of_perm (failures_perm perm).symm once).symm⟩
    | error e =>
      obtain ⟨es, same, -⟩ := allows
      cases same
  refine ⟨?_, only, fun j y => answered_of_only lively acts only⟩
  obtain ⟨y, reaches, finished⟩ := Machine.exists_finished t ({ context := {} } : Journal)
  obtain ⟨a, answer⟩ := Option.isSome_iff_exists.1 (reaches.answered lively finished)
  obtain ⟨updates, -, ends⟩ := reaches.ends answer
  rw [(only _ _ ends).1] at ends
  exact ⟨updates, ends⟩

namespace Execution

variable {r r' : Registry} {answers : Answers} {owner type name : String} {data x : Value}
variable {path : Path} {args : Option (Table Value)} {ns : List Node} {f : Field}

/-- **A child that stands alone** on a value: it can succeed there as the only child that is requested. -/
def StandsAlone (r : Registry) (type : String) (x : Value) (c : Node) : Prop :=
  ∃ o path updates, (Resolution.resolveBelow r [c] (.of r type x) path).Ends (.ok o) updates

/-- A child that stands alone serves. -/
theorem StandsAlone.serves (gives : r.Gives answers) {c : Node} (noWhen : c.isWhen = false)
    (h : StandsAlone r type x c) : Serves r answers type x c := by
  obtain ⟨o, path, updates, ends⟩ := h
  obtain ⟨own, found, -⟩ := meets_below gives [c] type x path _ _ ends
  have alone : ∀ d ∈ [c], d.isWhen = false := List.forall_mem_singleton.2 noWhen
  exact serves_of_evaluateBelow alone found c (List.mem_singleton.2 rfl)

/-- What serves under one registry does so under all that are alike. -/
theorem serves_congr (alike : r.Alike r') {c : Node} (h : Serves r answers type x c) :
    Serves r' answers type x c := by
  refine ⟨h.field, ?_⟩
  rw [← evaluate_congr alike]
  exact h.succeeds

/-- Cells are the same under registries that are alike. -/
theorem cell_congr (alike : r.Alike r') : cell r' answers type = cell r answers type := by
  funext c x
  rw [cell, cell, evaluate_congr alike]

/-- **Children deliver a row** of the cells of those that serve. -/
theorem delivers_row (gives : r.Gives answers) (distinct : (ns.map Node.name).Nodup)
    (serves : ∀ c ∈ ns, Serves r answers type x c) (path : Path) :
    Delivers (Resolution.resolveBelow r ns (.of r type x) path)
      (row (cell r answers type) ns x) (rowTold (cell r answers type) ns x) := by
  obtain ⟨run, found, same⟩ := evaluateBelow_of_serves distinct serves path
  have delivers : Delivers (Resolution.resolveBelow r ns (.of r type x) path) (shown run).1
      (shown run).2 := by
    refine .intro ?_ ?_ (meets_below gives ns type x path) found (within_evaluateBelow found).once
    · exact (Resolution.inherited_lively gives.lively).below ns type x path
    · exact (Resolution.inherited_acts r).below ns type x path
  rwa [same] at delivers

/-- **A result delivers a grid** of cells if it passes its check. -/
theorem delivers_grid (gives : r.Gives answers) {type : Descriptor} {v : Value}
    (custom : type.isNative = false) (checked : Check.customResult type true v = .ok ())
    (distinct : (ns.map Node.name).Nodup)
    (serves : ∀ x ∈ elements type v, ∀ c ∈ ns, Serves r answers type.name x c) (name : String)
    (path : Path) :
    Delivers (Resolution.complete r name type true path (Resolution.resolveBelow r ns) v)
      (.single name (grid (cell r answers type.name) type ns v))
      (gridTold (cell r answers type.name) type ns v) := by
  obtain ⟨run, found, same⟩ := complete_of_serves name custom checked distinct serves path
  have delivers : Delivers (Resolution.complete r name type true path (Resolution.resolveBelow r ns) v)
      (shown run).1 (shown run).2 := by
    refine .intro ?_ ?_ (meets_complete fun data path => meets_below gives ns type.name data path) found
      (within_complete (fun _ _ _ _ => within_evaluateBelow) found).once
    · have lively := Resolution.inherited_lively gives.lively
      exact lively.complete fun data path => lively.below ns type.name data path
    · have acts := Resolution.inherited_acts r
      exact acts.complete fun data path => acts.below ns type.name data path
  rwa [same] at delivers

/-- **A call delivers** what its evaluation is shown to come to. -/
theorem delivers_call (gives : r.Gives answers) (n : Node) {run : Value × List Event}
    (found : evaluate .all r answers n owner data path = .ok run) :
    Delivers (Resolution.resolve r n (.of r owner data) path) (shown run).1 (shown run).2 := by
  have within := Scope.in_of r owner data
  refine .intro ?_ ?_ (meets_resolve gives n _ path within) found (under_evaluate n _ _ _ _ _ found).once
  · exact (Resolution.inherited_lively gives.lively).resolve n _ path within
  · exact (Resolution.inherited_acts r).resolve n _ path within

/-- **Cells are independent.** Let a call of a custom-typed field succeed, with children of different
names and no conditional blocks among them. It gives a row of cells for what its resolver returned, or
a row for each item if that is a list, and a list of their failures, row by row. The cells are those
that the children give when they are requested alone. So the same cells make up the rows of whichever
children are requested in whatever order, the grid of a call for these, and the grid of whatever else
the resolver had returned, if only every child stands alone on every item of that; and it does not
matter how often resolvers let others run. -/
theorem cells_independent (gives : r.Gives answers) (call : (Node.mk name args ns).isMeta = false)
    (found : r.field? owner name = some f) (custom : f.type.isNative = false)
    (noWhen : ∀ c ∈ ns, c.isWhen = false) (distinct : (ns.map Node.name).Nodup) {w : Value}
    {updates : List (Journal → Journal)}
    (succeeds : (Resolution.resolve r (.mk name args ns) (.of r owner data) path).Ends (.ok w) updates) :
    ∃ (cells : Node → Value → Cell) (v : Value) (own : List (List String)),
      returned name (answers owner name (args.getD []) data) = (v, own) ∧
      w = .single name (grid cells f.type ns v) ∧
      Context.reports (failures (written updates)) = own ++ gridTold cells f.type ns v ∧
      (∀ x ∈ elements f.type v, ∀ c ∈ ns, StandsAlone r f.type.name x c) ∧
      ∀ r' : Registry, r.Alike r' → r'.Gives answers → ∀ path' : Path,
        ∀ ms ⊆ ns, (ms.map Node.name).Nodup →
          (∀ x, (∀ c ∈ ms, StandsAlone r f.type.name x c) →
            Delivers (Resolution.resolveBelow r' ms (.of r' f.type.name x) path')
              (row cells ms x) (rowTold cells ms x)) ∧
          (ms ≠ [] → Delivers (Resolution.resolve r' (.mk name args ms) (.of r' owner data) path')
            (.single name (grid cells f.type ms v)) (own ++ gridTold cells f.type ms v)) ∧
          ∀ v', Check.customResult f.type true v' = .ok () →
            (∀ x ∈ elements f.type v', ∀ c ∈ ms, StandsAlone r f.type.name x c) →
            Delivers (Resolution.complete r' name f.type true path' (Resolution.resolveBelow r' ms) v')
              (.single name (grid cells f.type ms v')) (gridTold cells f.type ms v') := by
  obtain ⟨own, evaluated, -⟩ :=
    meets_resolve gives (.mk name args ns) _ path (Scope.in_of r owner data) _ _ succeeds
  obtain ⟨admitted, checked, serves⟩ := serves_of_evaluate call found custom noWhen evaluated
  obtain ⟨run, evaluated', same⟩ :=
    evaluate_of_serves call found custom admitted checked distinct serves path
  have delivers := (delivers_call gives _ evaluated').only _ _ succeeds
  rw [same] at delivers
  refine ⟨cell r answers f.type.name, _, _, rfl, Except.ok.inj delivers.1, delivers.2, ?_, ?_⟩
  · intro x element c child
    have alone : ∀ d ∈ [c], Serves r answers f.type.name x d :=
      List.forall_mem_singleton.2 (serves x element c child)
    have one : ([c].map Node.name).Nodup := List.nodup_singleton _
    obtain ⟨updates, ends⟩ := (delivers_row gives one alone []).comes
    exact ⟨_, [], updates, ends⟩
  intro r' alike gives' path' ms among distinct'
  have same : cell r' answers f.type.name = cell r answers f.type.name := cell_congr alike
  have served {x : Value} (alone : ∀ c ∈ ms, StandsAlone r f.type.name x c) :
      ∀ c ∈ ms, Serves r' answers f.type.name x c := fun c mem =>
    serves_congr alike ((alone c mem).serves gives (noWhen c (among mem)))
  refine ⟨?_, ?_, ?_⟩
  · intro x alone
    rw [← same]
    exact delivers_row gives' distinct' (served alone) path'
  · intro some_
    obtain ⟨run', evaluated'', shows⟩ :=
      evaluate_selected call found custom noWhen evaluated among distinct' some_ path'
    rw [evaluate_congr alike] at evaluated''
    have delivers' := delivers_call gives' _ evaluated''
    rwa [shows] at delivers'
  · intro v' passes alone
    rw [← same]
    exact delivers_grid gives' custom passes distinct' (fun x element => served (alone x element)) name
      path'

/-- Two friends of Sam. -/
def ann : Value := person "Ann" [person "Cid" []]

def bob : Value := person "Bob" []

/-- The friends of Sam, by name and age. -/
def friendsNode : Node := .mk "friends" none [.leaf "name", .leaf "age"]

/-- A friend whose age cannot be told. -/
def ageless (name : String) : Value := .object [("age", .null), ("name", .text name)]

theorem cells_independent_circle : ∃ told told',
    Delivers (Resolution.resolve (people circle fun _ => 0)
        (.mk "friends" none [.leaf "age", .leaf "name"])
        (.of (people circle fun _ => 0) "Person" (person "Sam" [ann, bob])) [])
      (.single "friends" (.list [ageless "Ann", ageless "Bob"])) told ∧
    Delivers (Resolution.complete (people circle fun _ => 0) "friends" (.ofName true "Person!") true []
        (Resolution.resolveBelow (people circle fun _ => 0) [.leaf "age", .leaf "name"])
        (.list [bob, ann]))
      (.single "friends" (.list [ageless "Bob", ageless "Ann"])) told' := by
  have run : Lane.Reaches (Lane.begun (Resolution.resolve (people circle fun _ => 1) friendsNode
      (.of (people circle fun _ => 1) "Person" (person "Sam" [ann, bob])) []) { context := {} }) _ :=
    ⟨30, rfl⟩
  obtain ⟨updates, ends⟩ : ∃ updates, (Resolution.resolve (people circle fun _ => 1) friendsNode
      (.of (people circle fun _ => 1) "Person" (person "Sam" [ann, bob])) []).Ends
      (.ok (.single "friends" (.list [.object [("name", .text "Ann"), ("age", .null)],
        .object [("name", .text "Bob"), ("age", .null)]]))) updates := by
    obtain ⟨updates, -, ends⟩ := run.ends rfl
    exact ⟨updates, ends⟩
  obtain ⟨f, found, type⟩ : ∃ f, (people circle fun _ => 1).field? "Person" "friends" = some f ∧
      f.type = .ofName true "Person!" := ⟨_, rfl, rfl⟩
  obtain ⟨cells, v, own, outcome, value, -, each, independent⟩ :=
    cells_independent (gives_people circle _) rfl found (by rw [type]; rfl) (by decide) (by decide) ends
  rw [type] at value each independent
  obtain ⟨rfl, -⟩ : Value.list [ann, bob] = v ∧ [] = own := Prod.mk.inj outcome
  have rows : row cells [.leaf "name", .leaf "age"] ann =
        .object [("name", .text "Ann"), ("age", .null)] ∧
      row cells [.leaf "name", .leaf "age"] bob =
        .object [("name", .text "Bob"), ("age", .null)] := by
    have same : Value.single "friends" (.list [_, _]) = .single "friends" (.list [_, _]) := value
    simp only [Value.single, Value.object.injEq, List.cons.injEq, Prod.mk.injEq, Value.list.injEq,
      true_and, and_true] at same
    exact ⟨same.1.symm, same.2.symm⟩
  -- The cells of the run, in another order, are the rows of any other.
  have turned {x : Value} {name : String} (ordered : row cells [.leaf "name", .leaf "age"] x =
      .object [("name", .text name), ("age", .null)]) :
      row cells [.leaf "age", .leaf "name"] x = ageless name := by
    simp only [row, List.map_cons, List.map_nil, Value.object.injEq, List.cons.injEq, Prod.mk.injEq,
      and_true] at ordered
    simp only [row, ageless, List.map_cons, List.map_nil, ordered]
  have among : [Node.leaf "age", .leaf "name"] ⊆ [.leaf "name", .leaf "age"] := by simp
  obtain ⟨-, selects, others⟩ := independent (people circle fun _ => 0) (alike_people ..)
    (gives_people _ _) [] _ among (by decide)
  have selected := selects (by decide)
  have swapped := others (.list [bob, ann]) rfl fun x mem c child =>
    each x (List.Perm.mem_iff (.swap ..) |>.1 mem) c (among child)
  have inOrder : grid cells (.ofName true "Person!") [.leaf "age", .leaf "name"] (.list [ann, bob]) =
      .list [ageless "Ann", ageless "Bob"] := by
    rw [← turned rows.1, ← turned rows.2]
    rfl
  have inReverse : grid cells (.ofName true "Person!") [.leaf "age", .leaf "name"]
      (.list [bob, ann]) = .list [ageless "Bob", ageless "Ann"] := by
    rw [← turned rows.1, ← turned rows.2]
    rfl
  rw [inOrder] at selected
  rw [inReverse] at swapped
  exact ⟨_, _, selected, swapped⟩

/-! ## Requests -/

/-- **Whoever asks for less gets that.** When a request for a custom-typed field succeeds, with children of
different names and no conditional blocks among them, its data and its failures are made of cells; and
every request for some of these children, in whatever order, is answered with the cells of these, on any
registry that gives the same answers. -/
theorem selection_answered (gives : r.Gives answers) (call : (Node.mk name args ns).isMeta = false)
    (found : r.field? Registry.rootName name = some f) (custom : f.type.isNative = false)
    (noWhen : ∀ c ∈ ns, c.isWhen = false) (distinct : (ns.map Node.name).Nodup) {q : Request}
    (asks : q.source.read = .ok (.mk name args ns)) {w : Value} {errors : List (List String)}
    {calls : List Call} (success : alone r q = some ⟨.success w errors, calls⟩) :
    ∃ (cells : Node → Value → Cell) (v : Value) (own : List (List String)),
      w = .single name (grid cells f.type ns v) ∧ errors = own ++ gridTold cells f.type ns v ∧
      ∀ r' : Registry, r.Alike r' → r'.Gives answers → ∀ ms ⊆ ns, (ms.map Node.name).Nodup → ms ≠ [] →
        ∀ q' : Request, q'.source.read = .ok (.mk name args ms) → q'.limit = .null →
          ∃ calls', alone r' q' = some ⟨.success (.single name (grid cells f.type ms v))
            (own ++ gridTold cells f.type ms v), calls'⟩ := by
  obtain ⟨j, log, -, -, told, perm, surveyed⟩ := survey_of_success gives asks success
  obtain ⟨admitted, checked, serves⟩ := serves_of_evaluate call found custom noWhen surveyed
  obtain ⟨run, surveyed', same⟩ := evaluate_of_serves call found custom admitted checked distinct serves []
  cases surveyed.symm.trans surveyed'
  rw [reports_of_survey surveyed (failures_perm perm)] at told
  obtain ⟨value, reports⟩ := Prod.mk.inj same
  refine ⟨cell r answers f.type.name, _, _, value, told.trans reports, ?_⟩
  intro r' alike gives' ms among distinct' some_ q' asks' unlimited
  obtain ⟨run', selected, same'⟩ :=
    evaluate_selected call found custom noWhen surveyed among distinct' some_ []
  rw [evaluate_congr alike] at selected
  obtain ⟨⟨envelope, calls'⟩, answer, fits⟩ := fits_alone gives' asks' (.inl unlimited)
  have sequentially : sequential r' answers (.mk name args ms) = .ok run' :=
    evaluate_blame .first selected
  obtain ⟨value', reports'⟩ := Prod.mk.inj same'
  rw [Fits, sequentially] at fits
  refine ⟨calls', ?_⟩
  rw [answer, ← value', ← reports']
  exact congrArg (fun e => some (Response.mk e calls')) fits

end Execution

end CallTree
