/-
# CallTree.Proofs.Resolution.Faults — what a call tree can be aborted for.

Every fault that an unfolded tree meets arises from one of its calls (`Unfolding.explains_unfold`): from
its shape, its arguments, the type of its field, its result, or conditions among its children. The
sentence that a type is not declared is only ever said of a field of such a type
(`Abort.Arises.undeclared_of_message`).
-/
import CallTree.Proofs.Faults
import CallTree.Proofs.Resolution.Unfolding

namespace CallTree

/-- **What a call tree can be aborted for** on a registry. -/
inductive Abort.Arises (r : Registry) : Abort → Prop where
  | shape (f : ShapeFault) : Arises r (.shape f)
  | arguments (call : String) (f : ArgumentFault) : Arises r (.arguments call f)
  /-- The type of a field is not declared. -/
  | undeclared {owner call : String} {f : Field} (found : r.field? owner call = some f)
      (custom : f.type.isNative = false) (missing : r.hasType f.type.name = false) :
      Arises r (.result call (.undefinedType f.type.name))
  /-- A result does not pass its check. -/
  | result (call : String) {f : ResultFault} (other : ∀ name, f ≠ .undefinedType name) :
      Arises r (.result call f)
  | conditions {conditions : Value} {output : Table Value} {f : Condition.Fault}
      (refused : Condition.pass conditions output = .error f) : Arises r (.conditions f)

namespace Abort.Arises

variable {r : Registry} {e : Abort}

theorem worded (h : e.Arises r) : Worded e.message := by
  cases h with
  | shape f => exact f.plain.1
  | arguments call f => exact (f.plain call).1
  | undeclared found custom missing => exact worded_undefined _
  | result call other => exact (ResultFault.plain call other).1
  | conditions refused => exact (Condition.plain_pass refused).1

/-- **Where it is said that a type is not declared**, a field is of that type, and the type is not. -/
theorem undeclared_of_message (h : e.Arises r) {name : String}
    (said : e.message = Registry.undefinedMessage name) :
    ∃ owner call f, r.field? owner call = some f ∧ f.type.isNative = false ∧ f.type.name = name ∧
      r.hasType name = false ∧ e = .result call (.undefinedType name) := by
  cases h with
  | shape f => exact absurd said (f.plain.2 name)
  | arguments call f => exact absurd said ((f.plain call).2 name)
  | @undeclared owner call f found custom missing =>
    have same : f.type.name = name := undefinedMessage_inj said
    exact ⟨owner, call, f, found, custom, same, same ▸ missing, by rw [same]⟩
  | result call other => exact absurd said ((ResultFault.plain call other).2 name)
  | conditions refused => exact absurd said ((Condition.plain_pass refused).2 name)

end Abort.Arises

/-- **A plan that explains itself**: each of its faults arises on the registry. -/
def Plan.Explains (r : Registry) {α : Type} (p : Plan α) : Prop := ∀ e ∈ p.faults, e.Arises r

namespace Plan

variable {r : Registry} {α β : Type}

theorem Explains.succeed (a : α) : (Plan.succeed a).Explains r := nofun

theorem Explains.fault {e : Abort} (arises : e.Arises r) : (Plan.fault e : Plan α).Explains r := by
  intro f mem
  rw [List.mem_singleton.1 mem]
  exact arises

theorem Explains.andThen {p : Plan α} {k : α → Plan β} (first : p.Explains r)
    (second : ∀ a, (k a).Explains r) : (p.andThen k).Explains r := by
  unfold Plan.andThen
  split
  · exact first
  · rename_i a _
    exact List.forall_mem_append.2 ⟨first, second a⟩

theorem Explains.each {ps : List (Plan α)} (h : ∀ p ∈ ps, p.Explains r) : (each ps).Explains r := by
  intro e mem
  obtain ⟨p, hp, he⟩ := List.mem_flatMap.1 mem
  exact h p hp e he

end Plan

namespace Unfolding

open Resolution

variable {r : Registry} {told : Path → Option (Except Failure Value)}

/-- Conditions that do not answer. -/
theorem arises_holding {output : Table Value} {cs : List Placed} {f : Condition.Fault}
    (h : holding output cs = .error f) : Abort.Arises r (.conditions f) := by
  induction cs with
  | nil => cases h
  | cons c rest ih =>
    rw [holding] at h
    split at h
    · rename_i faulty
      cases h
      exact .conditions faulty
    · exact ih (error_of_map h)

/-- A call that does not pass the checks before its resolver runs. -/
theorem arises_checkCall {owner name : String} {args : Option (Table Value)} {f : Field} {e : Abort}
    (found : r.field? owner name = some f) (h : checkCall r name args f = .error e) :
    e.Arises r := by
  unfold checkCall at h
  split at h
  · rename_i fault _
    cases h
    exact .arguments fault.call fault.fault
  · split at h
    · cases h
    · rename_i custom
      obtain ⟨fault, undeclared, rfl⟩ := error_of_mapError h
      unfold Check.declared at undeclared
      split at undeclared
      · cases undeclared
      · rename_i missing
        cases undeclared
        exact .undeclared found (Bool.eq_false_iff.2 custom) (Bool.eq_false_iff.2 missing)

theorem explains_round {composes : Bool} {calls : List (Plan Value)} {output : Table Value}
    (children : ∀ p ∈ calls, p.Explains r) : (round composes calls output).Explains r := by
  unfold round
  split
  · exact .fault (.shape _)
  · exact .andThen (.each children) fun _ => .succeed _

theorem explains_complete {name : String} {type : Descriptor} {hasChildren : Bool} {path : Path}
    {children : String → Value → Path → Plan Value} {v : Value}
    (below : ∀ data path, (children type.name data path).Explains r) :
    (complete name type hasChildren path children v).Explains r := by
  have item (v : Value) (path : Path) :
      (if v.isNull then .succeed .null else children type.name v path : Plan Value).Explains r := by
    split
    · exact .succeed _
    · exact below v path
  unfold complete
  split
  · split
    · rename_i refused
      exact .fault (.result name fun _ same => Check.nativeResult_ne_undefinedType (same ▸ refused))
    · exact .succeed _
  · split
    · rename_i refused
      exact .fault (.result name fun _ same => Check.customResult_ne_undefinedType (same ▸ refused))
    · refine .andThen ?_ fun _ => .succeed _
      unfold descend
      split
      · exact .succeed _
      · split
        · refine .andThen (.each ?_) fun _ => .succeed _
          intro p mem
          obtain ⟨i, _, rfl⟩ := List.mem_mapIdx.1 mem
          exact item _ _
        · exact below v path

theorem explains_unfoldBelow {ns : List Node} {owner : String} {data : Value}
    (children : ∀ n ∈ ns, ∀ path, (unfold r told n owner data path).Explains r)
    (inBlocks : ∀ b ∈ ns, ∀ n ∈ b.children, ∀ path, (unfold r told n owner data path).Explains r)
    (path : Path) : (unfoldBelow r told ns owner data path).Explains r := by
  refine .andThen (explains_round ?_) fun output => ?_
  · intro p mem
    obtain ⟨c, hc, rfl⟩ := List.mem_map.1 mem
    exact children c.2 (mem_of_real hc) c.1
  · split
    · rename_i f faulty
      exact .fault (arises_holding faulty)
    · rename_i bs holds
      refine .andThen (explains_round ?_) fun _ => .succeed _
      intro p mem
      obtain ⟨c, hc, rfl⟩ := List.mem_map.1 mem
      obtain ⟨b, hb, inside⟩ := mem_of_inside holds hc
      exact inBlocks b hb c.2 inside c.1

/-- **Every fault of an unfolded tree** arises on the registry. -/
theorem explains_unfold (n : Node) : ∀ (owner : String) (data : Value) (path : Path),
    (unfold r told n owner data path).Explains r := by
  induction n using Node.induct with
  | compose args children ih =>
    intro owner data path
    rw [unfold_compose]
    refine .andThen (.each ?_) fun _ => .succeed _
    intro p mem
    obtain ⟨c, hc, rfl⟩ := List.mem_map.1 mem
    exact ih c.2 (mem_of_placed hc) owner data c.1
  | when args children =>
    intro owner data path
    rw [unfold_when]
    exact .fault (.shape _)
  | field name args children noCompose noWhen ih ihBlocks =>
    intro owner data path
    rw [unfold_field r told args children owner data path noCompose noWhen, callField]
    split
    · exact .fault (.shape _)
    · rename_i f found
      split
      · rename_i e faulty
        exact .fault (arises_checkCall found faulty)
      · -- A call itself meets no fault, whatever it comes to; what comes of its result may.
        refine .andThen nofun fun _ => ?_
        split
        · exact nofun
        · exact .succeed _
        · exact explains_complete fun data path => explains_unfoldBelow
            (fun n mem => ih n mem _ data) (fun b hb n mem => ihBlocks b hb n mem _ data) path

end Unfolding

end CallTree
