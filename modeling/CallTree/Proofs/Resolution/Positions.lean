/-
# CallTree.Proofs.Resolution.Positions — calls at different places have positions apart.

All calls that are resolved for the children of one call are apart from each other
(`allApart_called`), those in conditional blocks included: nothing is below two of them. What stands below
a call at a place further down is what stands below it elsewhere, with a front before its positions
(`placed_moved`).
-/
import Mathlib.Data.List.Pairwise
import CallTree.Proofs.Path
import CallTree.Proofs.Resolution.Calls

namespace CallTree

namespace Resolution

/-- Calls of which all positions are apart. -/
abbrev AllApart (cs : List Placed) : Prop := cs.Pairwise fun c d => Path.Apart c.1 d.1

theorem exists_of_mem_placedFrom {path : Path} {i : Nat} {ns : List Node} {c : Placed}
    (h : c ∈ placedFrom path i ns) : ∃ j : Nat, i ≤ j ∧ c.1 = path ++ [(j : Int)] := by
  obtain ⟨⟨n, j⟩, mem, rfl⟩ := List.mem_map.1 h
  exact ⟨j, (List.mem_zipIdx mem).1, rfl⟩

/-- Children are below their parent. -/
theorem above_of_placed {path : Path} {ns : List Node} {c : Placed} (h : c ∈ placed path ns) :
    path.Above c.1 := by
  obtain ⟨j, _, position⟩ := exists_of_mem_placedFrom h
  rw [position]
  exact path.above_concat j

theorem prefix_of_inside {b c : Placed} (h : c ∈ inside b) : b.1 <+: c.1 :=
  (above_of_placed h).1

theorem allApart_placedFrom (path : Path) (i : Nat) (ns : List Node) :
    AllApart (placedFrom path i ns) := by
  induction ns generalizing i with
  | nil => exact .nil
  | cons n rest ih =>
    rw [placedFrom_cons]
    refine .cons ?_ (ih (i + 1))
    intro c mem
    obtain ⟨j, later, position⟩ := exists_of_mem_placedFrom mem
    rw [position]
    exact .of_ne path (by omega)

/-- Siblings are apart. -/
theorem allApart_placed (path : Path) (ns : List Node) : AllApart (placed path ns) :=
  allApart_placedFrom path 0 ns

/-- The calls that are resolved for the children of a call: the real ones, and those in the given
blocks. -/
abbrev called (path : Path) (ns : List Node) (bs : List Placed) : List Placed :=
  real path ns ++ bs.flatMap inside

/-- **All calls that are resolved for the children of a call are apart.** -/
theorem allApart_called {path : Path} {ns : List Node} {bs : List Placed}
    (among : bs.Sublist (conditional path ns)) : AllApart (called path ns bs) := by
  have siblings := allApart_placed path ns
  have blocks : AllApart bs := (siblings.filter _).sublist among
  -- Real children, the calls in blocks, and one of each: the latter are below different siblings.
  refine List.pairwise_append.2 ⟨siblings.filter _, ?_, ?_⟩
  · refine List.pairwise_flatMap.2 ⟨fun b _ => allApart_placed b.1 b.2.children, ?_⟩
    apply blocks.imp
    intro b b' apart c hc d hd
    exact apart.extend (prefix_of_inside hc) (prefix_of_inside hd)
  · intro c hc d hd
    obtain ⟨b, hb, hd⟩ := List.mem_flatMap.1 hd
    obtain ⟨hc, isReal⟩ := List.mem_filter.1 hc
    obtain ⟨hb, isWhen⟩ := List.mem_filter.1 (among.mem hb)
    have ne : c ≠ b := by
      rintro rfl
      rw [isWhen] at isReal
      cases isReal
    have symm : Std.Symm fun c d : Placed => Path.Apart c.1 d.1 := ⟨fun _ _ => Path.Apart.symm⟩
    have apart := siblings.forall hc hb ne
    exact apart.extend (List.prefix_refl _) (prefix_of_inside hd)

/-- Whatever is called for the children of a call is below it. -/
theorem above_of_called {path : Path} {ns : List Node} {bs : List Placed}
    (among : bs.Sublist (conditional path ns)) {c : Placed} (h : c ∈ called path ns bs) :
    path.Above c.1 := by
  rcases List.mem_append.1 h with isReal | inBlock
  · exact above_of_placed (List.mem_filter.1 isReal).1
  · obtain ⟨b, hb, hc⟩ := List.mem_flatMap.1 inBlock
    have block := (List.mem_filter.1 (among.mem hb)).1
    exact (above_of_placed block).extend (prefix_of_inside hc)

/-! ## Places further down -/

/-- A placed call at a place further down. -/
def Placed.moved (front : Path) (c : Placed) : Placed := (front ++ c.1, c.2)

theorem placed_moved (front path : Path) (ns : List Node) :
    placed (front ++ path) ns = (placed path ns).map (Placed.moved front) := by
  rw [placed, placed, placedFrom, placedFrom, List.map_map]
  congr
  funext c
  simp only [Function.comp_apply, Placed.moved, List.append_assoc]

theorem real_moved (front path : Path) (ns : List Node) :
    real (front ++ path) ns = (real path ns).map (Placed.moved front) := by
  rw [real, placed_moved, List.filter_map]
  rfl

theorem conditional_moved (front path : Path) (ns : List Node) :
    conditional (front ++ path) ns = (conditional path ns).map (Placed.moved front) := by
  rw [conditional, placed_moved, List.filter_map]
  rfl

theorem flatMap_inside_moved (front : Path) (bs : List Placed) :
    (bs.map (Placed.moved front)).flatMap inside =
      (bs.flatMap inside).map (Placed.moved front) := by
  rw [List.flatMap_map, List.map_flatMap]
  congr
  funext b
  exact placed_moved front b.1 b.2.children

theorem any_isCompose_moved (front : Path) (cs : List Placed) :
    (cs.map (Placed.moved front)).any (fun c => c.2.isCompose) = cs.any fun c => c.2.isCompose := by
  rw [List.any_map]
  rfl

/-- Which blocks hold does not depend on their place. -/
theorem holding_moved (front : Path) (output : Table Value) (cs : List Placed) :
    holding output (cs.map (Placed.moved front)) =
      (holding output cs).map (List.map (Placed.moved front)) := by
  induction cs with
  | nil => rfl
  | cons c rest ih =>
    rw [List.map_cons, holding, holding, ih]
    have same : (c.moved front).2.conditions = c.2.conditions := rfl
    rw [same]
    cases Condition.pass c.2.conditions output with
    | error f => rfl
    | ok holds =>
      cases holding output rest with
      | error f => rfl
      | ok blocks => cases holds <;> rfl

end Resolution

end CallTree
