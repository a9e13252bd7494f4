/-
# CallTree.Proofs.Resolution.Inherited — what resolution inherits from its resolvers.

Resolution puts tasks together in three ways: side by side, one after the other, and a call before
what comes of it. A class of tasks that is closed under these (`Inherited`) has all resolutions in it.
Two such classes are shown here: a resolution hangs only if a resolver does, and whatever it does to
its journal is a journal step (`CallTree.Proofs.Journal`).
-/
import CallTree.Execution
import CallTree.Proofs.Resolution.Scripts

namespace CallTree

namespace Resolution

/-- **A class of tasks that is closed** under the ways in which resolution puts tasks together. -/
structure Inherited (r : Registry) (C : Work → Prop) : Prop where
  done : ∀ outcome, C (.done outcome)
  gatherAll : ∀ {tasks : List Work} {next : List Value → Work}, (∀ t ∈ tasks, C t) →
    (∀ values, C (next values)) → C (.gatherAll tasks next)
  andThen : ∀ {t : Work} {k : Value → Work}, C t → (∀ a, C (k a)) → C (t.andThen k)
  call : ∀ (call : Call) {f : Field}, r.field? call.owner call.field = some f →
    ∀ {next : Except Failure Value → Work}, (∀ outcome, C (next outcome)) →
      C (.act (·.start call) fun _ => (f.resolve call.args call.data).run call next)

namespace Inherited

variable {r : Registry} {C : Work → Prop}

theorem batch (h : Inherited r C) {composes : Bool} {calls : List Work} {output : Table Value}
    {next : Table Value → Work} (children : ∀ t ∈ calls, C t) (goesOn : ∀ output, C (next output)) :
    C (batch composes calls output next) := by
  unfold Resolution.batch
  split
  · exact h.done _
  · exact h.gatherAll children fun _ => goesOn _

theorem resolveBelow (h : Inherited r C) {ns : List Node} {scope : Scope} {path : Path}
    (children : ∀ c ∈ ns, ∀ path, C (resolve r c scope path))
    (inBlocks : ∀ b ∈ ns, ∀ c ∈ b.children, ∀ path, C (resolve r c scope path)) :
    C (resolveBelow r ns scope path) := by
  rw [resolveBelow_eq]
  refine h.batch ?_ ?_
  · intro t mem
    obtain ⟨c, hc, rfl⟩ := List.mem_map.1 mem
    exact children c.2 (mem_of_real hc) c.1
  · intro output
    split
    · exact h.done _
    · rename_i bs holds
      refine h.batch ?_ fun output => h.done _
      intro t mem
      obtain ⟨c, hc, rfl⟩ := List.mem_map.1 mem
      obtain ⟨b, hb, inside⟩ := mem_of_inside holds hc
      exact inBlocks b hb c.2 inside c.1

theorem complete (h : Inherited r C) {name : String} {type : Descriptor} {hasChildren : Bool}
    {path : Path} {children : Scope → Path → Work} {v : Value}
    (below : ∀ data path, C (children (.of r type.name data) path)) :
    C (complete r name type hasChildren path children v) := by
  have item (v : Value) (path : Path) :
      C (if v.isNull then .succeed .null else children (.of r type.name v) path) := by
    split
    · exact h.done _
    · exact below v path
  unfold Resolution.complete
  split
  · split <;> exact h.done _
  · split
    · exact h.done _
    · unfold descend
      split
      · exact h.done _
      · split
        · refine h.gatherAll ?_ fun _ => h.done _
          intro t mem
          obtain ⟨i, _, rfl⟩ := List.mem_mapIdx.1 mem
          exact item _ _
        · exact h.andThen (below v path) fun _ => h.done _

/-- **Every resolution is in the class.** -/
theorem resolve (h : Inherited r C) (n : Node) :
    ∀ (scope : Scope) (path : Path), scope.In r → C (resolve r n scope path) := by
  induction n using Node.induct with
  | compose args children ih =>
    intro scope path within
    rw [resolve_compose]
    refine h.gatherAll ?_ fun _ => h.done _
    intro t mem
    obtain ⟨c, hc, rfl⟩ := List.mem_map.1 mem
    exact ih c.2 (mem_of_placed hc) scope c.1 within
  | when args children =>
    intro scope path _
    rw [resolve_when]
    exact h.done _
  | field name args children noCompose noWhen ih ihBlocks =>
    intro scope path within
    rw [resolve_field r args children scope path noCompose noWhen, callField, within.get?]
    split
    · exact h.done _
    · rename_i f found
      split
      · exact h.done _
      · refine h.call (scope.call name args path) found ?_
        intro outcome
        split
        · exact h.done _
        · refine h.complete fun data path => h.resolveBelow (fun c mem path => ?_)
            fun b mem c inside path => ?_
          · exact ih c mem _ path (Scope.in_of ..)
          · exact ihBlocks b mem c inside _ path (Scope.in_of ..)

/-- The children of a call, on a value of a type of the registry. -/
theorem below (h : Inherited r C) (ns : List Node) (owner : String) (data : Value) (path : Path) :
    C (Resolution.resolveBelow r ns (.of r owner data) path) := by
  have within := Scope.in_of r owner data
  exact h.resolveBelow (fun c _ path => h.resolve c _ path within)
    fun _ _ c _ path => h.resolve c _ path within

end Inherited

end Resolution

/-! ## Hanging -/

theorem Script.Lively.run {s : Script} (h : s.Lively) (call : Call)
    {next : Except Failure Value → Work} (goesOn : ∀ outcome, (next outcome).Lively) :
    (s.run call next).Lively := by
  induction h with
  | done outcome => exact .act fun _ => goesOn outcome
  | pause _ ih => exact .pause ih
  | consult _ ih => exact .act fun j => ih j.context

theorem Resolution.inherited_lively {r : Registry} (lively : r.Lively) :
    Inherited r Task.Lively where
  done := .done
  gatherAll := .gatherAll
  andThen := .andThen
  call call _ found _ goesOn := .act fun _ => (lively _ _ _ found _ _).run call goesOn

/-! ## Journal steps -/

theorem Script.acts_run (s : Script) (call : Call) {next : Except Failure Value → Work}
    (goesOn : ∀ outcome, (next outcome).Acts Journal.Step) :
    (s.run call next).Acts Journal.Step := by
  induction s with
  | done outcome => exact .act (.finish call outcome) fun _ => goesOn outcome
  | pause rest ih => exact .pause ih
  | hang => exact .hang
  | consult state rest ih => exact .act (.setState state) fun j => ih j.context

theorem Resolution.inherited_acts (r : Registry) :
    Inherited r (Task.Acts Journal.Step) where
  done := .done
  gatherAll := .gatherAll
  andThen := .andThen
  call call _ _ _ goesOn := .act (.start call) fun _ => Script.acts_run _ call goesOn

end CallTree
