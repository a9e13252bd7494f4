/-
# CallTree.Proofs.Resolution.Pairs — two registries resolve a call tree alike.

A call tree is resolved on two registries, on the first at a place further down. A relation between tasks
that is kept by the ways in which resolution puts tasks together, and that holds between the calls of a
field if it holds between what comes of them (`Paired`), holds between the two resolutions
(`Paired.resolve`).
-/
import CallTree.Proofs.Resolution.Positions
import CallTree.Proofs.Task.Outcome

namespace CallTree

namespace Resolution

/-- **A relation between tasks that resolution keeps**, on two registries, with a front before the
positions on the first. -/
structure Paired (r r' : Registry) (front : Path) (R : Work → Work → Prop) : Prop where
  done : ∀ outcome, R (.done outcome) (.done outcome)
  gatherAll : ∀ {tasks tasks' : List Work} {next next' : List Value → Work},
    List.Forall₂ R tasks tasks' → (∀ values, R (next values) (next' values)) →
      R (.gatherAll tasks next) (.gatherAll tasks' next')
  andThen : ∀ {t t' : Work} {k k' : Value → Work}, R t t' → (∀ a, R (k a) (k' a)) →
    R (t.andThen k) (t'.andThen k')
  callField : ∀ (name : String) (args : Option (Table Value)) (hasChildren : Bool) (owner : String)
    (data : Value) (path : Path) {children children' : Scope → Path → Work},
    (∀ f, r.field? owner name = some f → ∀ v,
      R (complete r name f.type hasChildren (front ++ path) children v)
        (complete r' name f.type hasChildren path children' v)) →
    R (callField r name args hasChildren (.of r owner data) (front ++ path) children)
      (callField r' name args hasChildren (.of r' owner data) path children')

namespace Paired

variable {r r' : Registry} {front : Path} {R : Work → Work → Prop}

theorem round (h : Paired r r' front R) {scope scope' : Scope} {cs : List Placed}
    {output : Table Value} {next next' : Table Value → Work}
    (each : ∀ c ∈ cs, R (resolveAt r scope (c.moved front)) (resolveAt r' scope' c))
    (goesOn : ∀ output, R (next output) (next' output)) :
    R (round r scope (cs.map (Placed.moved front)) output next) (round r' scope' cs output next') := by
  unfold Resolution.round batch
  rw [any_isCompose_moved, List.map_map]
  split
  · exact h.done _
  · exact h.gatherAll (forall₂_map each) fun _ => goesOn _

/-- The children of a call, one by one and in the blocks that hold. -/
theorem resolveBelow (h : Paired r r' front R) {ns : List Node} {scope scope' : Scope} {path : Path}
    (children : ∀ c ∈ ns, ∀ path, R (resolve r c scope (front ++ path)) (resolve r' c scope' path))
    (inBlocks : ∀ b ∈ ns, ∀ c ∈ b.children, ∀ path,
      R (resolve r c scope (front ++ path)) (resolve r' c scope' path)) :
    R (resolveBelow r ns scope (front ++ path)) (resolveBelow r' ns scope' path) := by
  rw [resolveBelow_eq, resolveBelow_eq, real_moved, conditional_moved]
  refine h.round (fun c mem => children c.2 (mem_of_real mem) c.1) ?_
  intro output
  rw [holding_moved]
  cases holds : holding output (conditional path ns) with
  | error f => exact h.done _
  | ok bs =>
    simp only [Except.map]
    rw [flatMap_inside_moved]
    refine h.round ?_ fun output => h.done _
    intro c mem
    obtain ⟨b, hb, inside⟩ := mem_of_inside holds mem
    exact inBlocks b hb c.2 inside c.1

/-- What comes of a result. -/
theorem complete (h : Paired r r' front R) {name : String} {type : Descriptor} {hasChildren : Bool}
    {path : Path} {children children' : Scope → Path → Work} {v : Value}
    (below : ∀ data path, R (children (.of r type.name data) (front ++ path))
      (children' (.of r' type.name data) path)) :
    R (complete r name type hasChildren (front ++ path) children v)
      (complete r' name type hasChildren path children' v) := by
  unfold Resolution.complete
  split
  · split <;> exact h.done _
  · split
    · exact h.done _
    · unfold descend
      split
      · exact h.done _
      · split
        · refine h.gatherAll ?_ fun _ => h.done _
          rw [List.mapIdx_eq_zipIdx_map, List.mapIdx_eq_zipIdx_map]
          refine forall₂_map ?_
          rintro ⟨item, i⟩ _
          simp only
          split
          · exact h.done _
          · rw [List.append_assoc]
            exact below _ _
        · exact h.andThen (below v path) fun _ => h.done _

/-- **Resolution keeps the relation.** -/
theorem resolve (h : Paired r r' front R) (n : Node) :
    ∀ (owner : String) (data : Value) (path : Path),
      R (resolve r n (.of r owner data) (front ++ path)) (resolve r' n (.of r' owner data) path) := by
  induction n using Node.induct with
  | compose args children ih =>
    intro owner data path
    rw [resolve_compose, resolve_compose, placed_moved, List.map_map]
    refine h.gatherAll (forall₂_map ?_) fun _ => h.done _
    exact fun c mem => ih c.2 (mem_of_placed mem) owner data c.1
  | when args children =>
    intro owner data path
    rw [resolve_when, resolve_when]
    exact h.done _
  | field name args children noCompose noWhen ih ihBlocks =>
    intro owner data path
    rw [resolve_field r args children _ _ noCompose noWhen,
      resolve_field r' args children _ path noCompose noWhen]
    refine h.callField name args _ owner data path fun f _ v => h.complete fun data path => ?_
    refine h.resolveBelow (fun c mem path => ?_) fun b mem c inside path => ?_
    · exact ih c mem f.type.name data path
    · exact ihBlocks b mem c inside f.type.name data path

end Paired

end Resolution

end CallTree
