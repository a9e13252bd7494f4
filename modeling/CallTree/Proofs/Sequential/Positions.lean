/-
# CallTree.Proofs.Sequential.Positions — where the calls of an evaluation are.

All that a successful evaluation tells of is at or below the position of the call, and no two failures
are at one position (`under_evaluate`). What is below a call is strictly below it (`within_complete`). So
the failures of calls that stand from left to right are told one call after the other
(`reports_of_left`).
-/
import CallTree.Proofs.Context
import CallTree.Proofs.Resolution.Positions
import CallTree.Proofs.Sequential.Success

namespace CallTree

namespace Sequential

open Journal Resolution

variable {ε α β : Type}

/-- **A history at or below a position**, with failures at different positions. -/
structure Under (path : Path) (log : List Event) : Prop where
  below : ∀ e ∈ log, path <+: e.call.path
  once : ((failures log).map FailedCall.path).Nodup

/-- A history strictly below a position, with failures at different positions. -/
structure Within (path : Path) (log : List Event) : Prop where
  below : ∀ e ∈ log, path.Above e.call.path
  once : ((failures log).map FailedCall.path).Nodup

theorem Within.nil (path : Path) : Within path [] := ⟨nofun, .nil⟩

theorem Within.under {path : Path} {log : List Event} (h : Within path log) : Under path log :=
  ⟨fun e mem => (h.below e mem).1, h.once⟩

/-- What is told of calls that are apart: the failures are at different positions, and everything is at
or below its call. -/
theorem once_of_apart {place : β → Path} {entries : List β}
    (apart : entries.Pairwise fun x y => Path.Apart (place x) (place y)) {v : β → Verdict ε α}
    (under : ∀ x ∈ entries, ∀ a log, v x = .ok (a, log) → Under (place x) log)
    {runs : List (α × List Event)} (all : entries.map v = runs.map .ok) :
    (∀ e ∈ runs.flatMap (·.2), ∃ x ∈ entries, place x <+: e.call.path) ∧
      ((failures (runs.flatMap (·.2))).map FailedCall.path).Nodup := by
  induction entries generalizing runs with
  | nil =>
    rw [List.eq_nil_of_map_eq_nil all.symm]
    exact ⟨nofun, .nil⟩
  | cons x rest ih =>
    cases runs with
    | nil => cases all
    | cons run runs =>
      rw [List.map_cons, List.map_cons, List.cons.injEq] at all
      rw [List.pairwise_cons] at apart
      obtain ⟨found, others⟩ := ih apart.2 (fun y mem => under y (List.mem_cons_of_mem _ mem)) all.2
      have here := under x List.mem_cons_self run.1 run.2 all.1
      rw [List.flatMap_cons]
      refine ⟨?_, ?_⟩
      · intro e mem
        rcases List.mem_append.1 mem with own | later
        · exact ⟨x, List.mem_cons_self, here.below e own⟩
        · obtain ⟨y, hy, below⟩ := found e later
          exact ⟨y, List.mem_cons_of_mem _ hy, below⟩
      · rw [failures_append, List.map_append, List.nodup_append]
        refine ⟨here.once, others, ?_⟩
        intro p hp q hq same
        obtain ⟨f, hf, rfl⟩ := List.mem_map.1 hp
        obtain ⟨g, hg, rfl⟩ := List.mem_map.1 hq
        obtain ⟨e, he, position⟩ := exists_of_mem_failures hf
        obtain ⟨e', he', position'⟩ := exists_of_mem_failures hg
        obtain ⟨y, hy, below⟩ := found e' he'
        rw [position', ← same, ← position] at below
        exact (apart.1 y hy).not_below (here.below e he) below

/-- What clients are shown of a successful run: its result, and its failures. -/
def shown (run : α × List Event) : α × List (List String) := (run.1, Context.reports (failures run.2))

/-- **The failures of calls from left to right** are told one call after the other. -/
theorem reports_of_left {place : β → Path} {entries : List β}
    (left : entries.Pairwise fun x y => Path.Left (place x) (place y)) {v : β → Verdict ε α}
    (under : ∀ x ∈ entries, ∀ a log, v x = .ok (a, log) → Under (place x) log)
    {runs : List (α × List Event)} (all : entries.map v = runs.map .ok) :
    Context.reports (failures (runs.flatMap (·.2))) = runs.flatMap fun run => (shown run).2 := by
  have once := (once_of_apart (left.imp Path.Left.apart) under all).2
  have logs : failures (runs.flatMap (·.2)) = (runs.map fun run => failures run.2).flatten := by
    rw [List.flatMap, failures, List.filterMap_flatten, List.map_map]
    rfl
  rw [logs] at once ⊢
  rw [Context.reports, Context.arrange_flatten ?_ once, List.map_flatten, List.map_map, List.map_map]
  · rfl
  · -- What is told of a call is at or below its place, and the places go from left to right.
    rw [List.pairwise_map]
    have inOrder := left.imp_of_mem fun {x y} hx hy (h : Path.Left (place x) (place y)) =>
      And.intro hx (And.intro hy h)
    refine pairwise_of_forall₂ (map_eq_map_iff.1 all) inOrder ?_
    rintro x y run run' here there ⟨hx, hy, apart⟩ f hf g hg
    obtain ⟨e, mem, place⟩ := exists_of_mem_failures hf
    obtain ⟨e', mem', place'⟩ := exists_of_mem_failures hg
    have below := (under x hx _ _ here).below e mem
    have below' := (under y hy _ _ there).below e' mem'
    rw [place] at below
    rw [place'] at below'
    exact (apart.extend below below').before.1

variable {b : Blame ε} {r : Registry} {answers : Answers}

theorem within_children {ns : List Node} {type : String} {v : Value} {path : Path}
    (children : ∀ c ∈ ns, ∀ path a log, evaluate b r answers c type v path = .ok (a, log) →
      Under path log)
    (inBlocks : ∀ d ∈ ns, ∀ c ∈ d.children, ∀ path a log,
      evaluate b r answers c type v path = .ok (a, log) → Under path log)
    {w : Value} {log : List Event}
    (h : evaluateBelow b r answers ns type v path = .ok (w, log)) : Within path log := by
  obtain ⟨bs, runs, runs', holds, -, all, -, rfl⟩ := evaluateBelow_eq_ok h
  have among := sublist_of_holding holds
  have under (c : Placed) (mem : c ∈ called path ns bs) (a : Value) (log : List Event)
      (found : evaluateAt b r answers type v c = .ok (a, log)) : Under c.1 log := by
    rcases List.mem_append.1 mem with isReal | inBlock
    · exact children c.2 (mem_of_real isReal) c.1 a log found
    · obtain ⟨d, hd, inside⟩ := mem_of_inside holds inBlock
      exact inBlocks d hd c.2 inside c.1 a log found
  obtain ⟨below, once⟩ := once_of_apart (allApart_called among) under all
  refine ⟨?_, once⟩
  intro e mem
  obtain ⟨c, hc, prefixed⟩ := below e mem
  exact (above_of_called among hc).extend prefixed

/-- The positions of the items of a list are apart. -/
theorem apart_items (path : Path) (items : List Value) :
    items.zipIdx.Pairwise fun x y => Path.Apart (path ++ [(x.2 : Int)]) (path ++ [(y.2 : Int)]) := by
  have increasing := @List.pairwise_lt_range' 0 items.length 1 Nat.one_pos
  rw [← List.zipIdx_map_snd, List.pairwise_map] at increasing
  exact increasing.imp fun lt => .of_ne path (by omega)

theorem within_itemAt {type : String} {path : Path}
    {children : String → Value → Path → Verdict ε Value}
    (below : ∀ data path a log, children type data path = .ok (a, log) → Within path log)
    {x : Value × Nat} {a : Value} {log : List Event}
    (found : itemAt type path children x = .ok (a, log)) : Within (path ++ [(x.2 : Int)]) log := by
  unfold itemAt at found
  split at found
  · cases found
    exact .nil _
  · exact below _ _ _ _ found

theorem within_descend {type : Descriptor} {path : Path}
    {children : String → Value → Path → Verdict ε Value} {v : Value}
    (below : ∀ data path a log, children type.name data path = .ok (a, log) → Within path log)
    {w : Value} {log : List Event} (h : descend b type path children v = .ok (w, log)) :
    Within path log := by
  rw [descend_eq_ok_iff] at h
  split at h
  · rw [h.2]
    exact .nil path
  · split at h
    · obtain ⟨runs, all, -, rfl⟩ := h
      obtain ⟨prefixed, once⟩ := once_of_apart (apart_items path _)
        (fun x _ a log found => (within_itemAt below found).under) all
      refine ⟨?_, once⟩
      intro e mem
      obtain ⟨x, _, here⟩ := prefixed e mem
      exact (path.above_concat x.2).extend here
    · exact below _ _ _ _ h

/-- What a call has on what its resolver returned is strictly below the call. -/
theorem within_complete {name : String} {type : Descriptor} {hasChildren : Bool} {path : Path}
    {children : String → Value → Path → Verdict ε Value} {v : Value}
    (below : ∀ data path a log, children type.name data path = .ok (a, log) → Within path log)
    {w : Value} {log : List Event}
    (h : complete b name type hasChildren path children v = .ok (w, log)) : Within path log := by
  rw [complete_eq_ok_iff] at h
  split at h
  · rw [h.2.2]
    exact .nil path
  · obtain ⟨-, x, found, -⟩ := h
    exact within_descend below found

theorem under_record (call : Call) (outcome : Except Failure Value) :
    Under call.path (record call outcome) := by
  refine ⟨?_, ?_⟩
  · intro e mem
    simp only [record, List.mem_cons, List.not_mem_nil, or_false] at mem
    rcases mem with rfl | rfl
    · exact List.prefix_refl _
    · exact List.prefix_refl _
  · cases outcome with
    | ok v => exact .nil
    | error f => exact List.pairwise_singleton _ _

theorem within_composed {children : List Node} {owner : String} {data : Value} {path : Path}
    (below : ∀ c ∈ children, ∀ path a log, evaluate b r answers c owner data path = .ok (a, log) →
      Under path log) {runs : List (Value × List Event)}
    (all : (placed path children).map (evaluateAt b r answers owner data) = runs.map .ok) :
    Within path (runs.flatMap (·.2)) := by
  obtain ⟨prefixed, once⟩ := once_of_apart (allApart_placed path children)
    (fun c mem => below c.2 (mem_of_placed mem) c.1) all
  refine ⟨?_, once⟩
  intro e mem
  obtain ⟨c, hc, here⟩ := prefixed e mem
  exact (above_of_placed hc).extend here

/-- **All that an evaluation tells of** is at or below the position of the call, and the failures are at
different positions. -/
theorem under_evaluate (n : Node) :
    ∀ owner data path a log, evaluate b r answers n owner data path = .ok (a, log) →
      Under path log := by
  induction n using Node.induct with
  | compose args children ih =>
    intro owner data path a log h
    obtain ⟨runs, all, -, rfl⟩ := evaluate_compose_eq_ok_iff.1 h
    exact (within_composed (fun c mem => ih c mem owner data) all).under
  | when args children =>
    intro owner data path a log h
    rw [evaluate_when] at h
    cases h
  | field name args children noCompose noWhen ih ihBlocks =>
    intro owner data path a log h
    rw [evaluate_field _ _ _ _ _ _ _ _ noCompose noWhen] at h
    obtain ⟨f, -, -, more, rfl, rest⟩ := callField_eq_ok_iff.1 h
    have own := under_record ⟨owner, name, path, args.getD [], data⟩
      (answers owner name (args.getD []) data)
    split at rest
    · rw [rest.2, List.append_nil]
      exact own
    · rename_i v outcome
      rw [outcome] at own ⊢
      have later : Within path more := within_complete (fun data path a log found =>
        within_children (fun c mem path => ih c mem _ data path)
          (fun d mem c inside path => ihBlocks d mem c inside _ data path) found) rest
      refine ⟨?_, ?_⟩
      · intro e mem
        rcases List.mem_append.1 mem with here | below
        · exact own.below e here
        · exact (later.below e below).1
      · rw [failures_append]
        exact later.once

/-- What the children of a call tell of is strictly below the call. -/
theorem within_evaluateBelow {ns : List Node} {type : String} {data : Value} {path : Path}
    {a : Value} {log : List Event}
    (found : evaluateBelow b r answers ns type data path = .ok (a, log)) : Within path log :=
  within_children (fun c _ => under_evaluate c type data)
    (fun _ _ c _ => under_evaluate c type data) found

end Sequential

end CallTree
