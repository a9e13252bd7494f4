/-
# CallTree.Proofs.Resolution.Blocks — conditional blocks among children.

Which blocks among the children of a call hold is asked of one output, block by block
(`holding_eq_ok_iff`). So it can be told from the children alone, without their positions: there are the
real children, the blocks, and the calls in the blocks that hold (`Node.admittedAmong`).
-/
import CallTree.Proofs.Except
import CallTree.Proofs.Resolution.Calls

namespace CallTree

namespace Node

/-- The calls among children that are no conditional blocks. -/
def realAmong (ns : List Node) : List Node := ns.filter fun n => !n.isWhen

/-- The conditional blocks among children. -/
def blocksAmong (ns : List Node) : List Node := ns.filter isWhen

/-- Whether a block can be asked about an output, and holds of it. -/
def holdsOf (output : Table Value) (n : Node) : Bool :=
  match Condition.pass n.conditions output with
  | .ok holds => holds
  | .error _ => false

/-- **The calls in the blocks that hold** of an output, in the order of the blocks. -/
def admittedAmong (output : Table Value) (ns : List Node) : List Node :=
  ((blocksAmong ns).filter (holdsOf output)).flatMap children

/-- All blocks among children can be asked about an output. -/
def Decided (output : Table Value) (ns : List Node) : Prop :=
  ∀ n ∈ blocksAmong ns, ∃ holds, Condition.pass n.conditions output = .ok holds

/-- Among calls that are no blocks, all are real. -/
theorem realAmong_eq_self {ns : List Node} (noWhen : ∀ n ∈ ns, n.isWhen = false) :
    realAmong ns = ns :=
  List.filter_eq_self.2 fun n mem => by rw [noWhen n mem]; rfl

/-- Among calls that are no blocks, there are none. -/
theorem blocksAmong_eq_nil {ns : List Node} (noWhen : ∀ n ∈ ns, n.isWhen = false) :
    blocksAmong ns = [] :=
  List.filter_eq_nil_iff.2 fun n mem => by rw [noWhen n mem]; exact Bool.false_ne_true

end Node

namespace Resolution

theorem map_snd_filter (p : Node → Bool) (cs : List Placed) :
    (cs.filter fun c => p c.2).map Prod.snd = (cs.map Prod.snd).filter p := by
  rw [List.filter_map]
  rfl

theorem map_snd_real (path : Path) (ns : List Node) :
    (real path ns).map Prod.snd = Node.realAmong ns := by
  have filtered := map_snd_filter (fun n => !n.isWhen) (placed path ns)
  rwa [map_snd_placed] at filtered

theorem map_snd_conditional (path : Path) (ns : List Node) :
    (conditional path ns).map Prod.snd = Node.blocksAmong ns := by
  have filtered := map_snd_filter Node.isWhen (placed path ns)
  rwa [map_snd_placed] at filtered

theorem map_snd_flatMap_inside (bs : List Placed) :
    (bs.flatMap inside).map Prod.snd = (bs.map Prod.snd).flatMap Node.children := by
  rw [List.map_flatMap, List.flatMap_map]
  congr
  funext b
  exact map_snd_placed b.1 b.2.children

/-- **The blocks that hold** are found if all can be asked, and then they are those that hold. -/
theorem holding_eq_ok_iff {output : Table Value} {cs bs : List Placed} :
    holding output cs = .ok bs ↔
      (∀ c ∈ cs, ∃ holds, Condition.pass c.2.conditions output = .ok holds) ∧
        bs = cs.filter fun c => c.2.holdsOf output := by
  induction cs generalizing bs with
  | nil =>
    constructor
    · intro h
      cases h
      exact ⟨List.forall_mem_nil _, rfl⟩
    · intro h
      rw [h.2]
      rfl
  | cons c rest ih =>
    rw [holding, List.forall_mem_cons, List.filter_cons, Node.holdsOf]
    cases asked : Condition.pass c.2.conditions output with
    | error f =>
      constructor
      · intro h
        cases h
      · rintro ⟨⟨⟨_, same⟩, -⟩, -⟩
        cases same
    | ok holds =>
      constructor
      · intro h
        obtain ⟨blocks, others, rfl⟩ := map_eq_ok_iff.1 h
        obtain ⟨decided, rfl⟩ := ih.1 others
        exact ⟨⟨⟨holds, rfl⟩, decided⟩, rfl⟩
      · rintro ⟨⟨-, decided⟩, rfl⟩
        rw [ih.2 ⟨decided, rfl⟩]
        rfl

/-- The blocks that hold, wherever they stand. -/
theorem holding_conditional {output : Table Value} {path : Path} {ns : List Node} {bs : List Placed} :
    holding output (conditional path ns) = .ok bs ↔
      Node.Decided output ns ∧ bs = (conditional path ns).filter fun c => c.2.holdsOf output := by
  rw [holding_eq_ok_iff, Node.Decided, ← map_snd_conditional path ns, List.forall_mem_map]

/-- The calls in the blocks that hold, wherever they stand. -/
theorem map_snd_admitted (output : Table Value) (path : Path) (ns : List Node) :
    (((conditional path ns).filter fun c => c.2.holdsOf output).flatMap inside).map Prod.snd =
      Node.admittedAmong output ns := by
  rw [map_snd_flatMap_inside, map_snd_filter, map_snd_conditional, Node.admittedAmong]

theorem any_isCompose_iff (cs : List Placed) :
    cs.any (fun c => c.2.isCompose) = false ↔ ∀ n ∈ cs.map Prod.snd, n.isCompose = false := by
  rw [List.any_eq_false, List.forall_mem_map]
  simp only [Bool.not_eq_true]

end Resolution

end CallTree
