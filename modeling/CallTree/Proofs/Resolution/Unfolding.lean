/-
# CallTree.Proofs.Resolution.Unfolding — which calls a tree asks for, and in which order.

A call tree is unfolded along what its calls have come to so far: below a call whose outcome is not
known nothing is known yet. A plan (`Plan`) lists the calls that the tree asks for, each with those that
have to have ended before; with them the result, if all of it is known, and the faults that the tree
meets outside of resolvers. The unfolding itself (`Unfolding.unfold`) is a plain recursion over the
tree: one call for each field and each value above it, for the items of a list one by one, and in
conditional blocks only where the conditions hold.
-/
import Mathlib.Data.List.Defs
import CallTree.Proofs.Check
import CallTree.Proofs.Resolution.Calls

namespace CallTree

/-- **`Planned`** — a call that a tree asks for, and the calls that have to have ended before it
starts. -/
structure Planned where
  call : Call
  after : List Call

/-- A planned call that comes after others besides. -/
def Planned.behind (earlier : List Call) (p : Planned) : Planned :=
  { p with after := earlier ++ p.after }

/-- **`Plan α`** — the calls that are asked for, the result if it is known, and the faults that are
met. -/
structure Plan (α : Type) where
  result : Option α
  calls : List Planned
  faults : List Abort

namespace Plan

variable {α β γ : Type}

/-- A result without a call. -/
def succeed (a : α) : Plan α := ⟨some a, [], []⟩

def fault (e : Abort) : Plan α := ⟨none, [], [e]⟩

/-- Nothing is known yet. -/
def pending : Plan α := ⟨none, [], []⟩

/-- A single call. -/
def call (c : Call) : Plan Unit := ⟨some (), [⟨c, []⟩], []⟩

/-- The calls of a plan as such. -/
def asked (p : Plan α) : List Call := p.calls.map Planned.call

/-- Go on when everything before has ended. -/
def andThen (p : Plan α) (k : α → Plan β) : Plan β :=
  match p.result with
  | none => ⟨none, p.calls, p.faults⟩
  | some a =>
    ⟨(k a).result, p.calls ++ (k a).calls.map (Planned.behind p.asked), p.faults ++ (k a).faults⟩

/-- Side by side. -/
def each (ps : List (Plan α)) : Plan (List α) :=
  ⟨(ps.map result).allSome, ps.flatMap calls, ps.flatMap faults⟩

theorem andThen_of_result {p : Plan α} {a : α} (h : p.result = some a) (k : α → Plan β) :
    p.andThen k = ⟨(k a).result, p.calls ++ (k a).calls.map (Planned.behind p.asked),
      p.faults ++ (k a).faults⟩ := by
  rw [andThen, h]

theorem calls_subset_andThen (p : Plan α) (k : α → Plan β) : p.calls ⊆ (p.andThen k).calls := by
  unfold andThen
  split
  · exact List.Subset.refl _
  · exact List.subset_append_left _ _

theorem faults_subset_andThen (p : Plan α) (k : α → Plan β) : p.faults ⊆ (p.andThen k).faults := by
  unfold andThen
  split
  · exact List.Subset.refl _
  · exact List.subset_append_left _ _

/-- A result that is only rearranged. -/
theorem andThen_succeed (p : Plan α) (f : α → β) (k : β → Plan γ) :
    (p.andThen fun a => succeed (f a)).andThen k = p.andThen fun a => k (f a) := by
  obtain ⟨_ | a, calls, faults⟩ := p
  · rfl
  · simp only [andThen, succeed, asked, List.map_nil, List.append_nil]

theorem result_each {ps : List (Plan α)} {values : List α}
    (all : ps.map result = values.map some) : (each ps).result = some values := by
  rw [each, all, List.allSome, List.mapM_map]
  exact List.mapM_pure.trans (by rw [List.map_id']; rfl)

/-- A property of planned calls that those of a sequence have, if it does not depend on what comes
before. -/
theorem forall_andThen {P : Planned → Prop} {p : Plan α} {k : α → Plan β}
    (first : ∀ c ∈ p.calls, P c) (second : ∀ a, ∀ c ∈ (k a).calls, P (c.behind p.asked)) :
    ∀ c ∈ (p.andThen k).calls, P c := by
  unfold andThen
  split
  · exact first
  · rename_i a _
    intro c mem
    rcases List.mem_append.1 mem with early | late
    · exact first c early
    · obtain ⟨d, hd, rfl⟩ := List.mem_map.1 late
      exact second a d hd

theorem forall_each {P : Planned → Prop} {ps : List (Plan α)}
    (h : ∀ p ∈ ps, ∀ c ∈ p.calls, P c) : ∀ c ∈ (each ps).calls, P c := by
  intro c mem
  obtain ⟨p, hp, hc⟩ := List.mem_flatMap.1 mem
  exact h p hp c hc

end Plan

namespace Unfolding

open Resolution

/-- A round of calls, with what they give merged into an output. -/
def round (composes : Bool) (calls : List (Plan Value)) (output : Table Value) :
    Plan (Table Value) :=
  if composes then .fault (.shape .composeInside)
  else (Plan.each calls).andThen fun results => .succeed (mergeAll output results)

/-- The children of a call on what its resolver returned. -/
def descend (type : Descriptor) (path : Path) (children : String → Value → Path → Plan Value)
    (v : Value) : Plan Value :=
  if v.isNull then .succeed .null
  else if type.isArray then
    (Plan.each ((v.items?.getD []).mapIdx fun i item =>
      if item.isNull then .succeed .null else children type.name item (path ++ [(i : Int)]))).andThen
        fun results => .succeed (.list results)
  else children type.name v path

/-- What a call goes on as, when its resolver has returned. -/
def complete (name : String) (type : Descriptor) (hasChildren : Bool) (path : Path)
    (children : String → Value → Path → Plan Value) (v : Value) : Plan Value :=
  if type.isNative then
    match Check.nativeResult type hasChildren v with
    | .error f => .fault (.result name f)
    | .ok () => .succeed (.single name v)
  else
    match Check.customResult type hasChildren v with
    | .error f => .fault (.result name f)
    | .ok () => (descend type path children v).andThen fun w => .succeed (.single name w)

variable (r : Registry) (told : Path → Option (Except Failure Value))

/-- A call of a field of a type on a value, and what comes of it: nothing but null if it failed. -/
def callField (name : String) (args : Option (Table Value)) (hasChildren : Bool) (owner : String)
    (data : Value) (path : Path) (children : String → Value → Path → Plan Value) : Plan Value :=
  match r.field? owner name with
  | none => .fault (.shape (.unknownName name))
  | some f =>
    match checkCall r name args f with
    | .error e => .fault e
    | .ok () =>
      (Plan.call ⟨owner, name, path, args.getD [], data⟩).andThen fun () =>
        match told path with
        | none => .pending
        | some (.error _) => .succeed (.single name .null)
        | some (.ok v) => complete name f.type hasChildren path children v

/-- **Unfold** a call on a value of a type, along what is told of the calls at their positions. -/
def unfold (n : Node) (owner : String) (data : Value) (path : Path) : Plan Value :=
  match n with
  | .mk name args children =>
    if name = Node.composeName then
      (Plan.each ((placed path children).attach.map fun c => unfold c.1.2 owner data c.1.1)).andThen
        fun results => .succeed (.list results)
    else if name = Node.whenName then .fault (.shape .whenOutside)
    else
      callField r told name args (!children.isEmpty) owner data path fun type v path =>
        (round ((real path children).any fun c => c.2.isCompose)
          ((real path children).attach.map fun c => unfold c.1.2 type v c.1.1) []).andThen
            fun output =>
              match _holds : holding output (conditional path children) with
              | .error f => .fault (.conditions f)
              | .ok bs =>
                (round ((bs.flatMap inside).any fun c => c.2.isCompose)
                  ((bs.flatMap inside).attach.map fun c => unfold c.1.2 type v c.1.1)
                  output).andThen fun output => .succeed (.object output)
termination_by sizeOf n
decreasing_by
  -- The children, the real ones among them, and the calls in the blocks that hold.
  · exact sizeOf_child_lt (mem_of_placed c.2)
  · exact sizeOf_child_lt (mem_of_real c.2)
  · obtain ⟨b, mem, mem'⟩ := mem_of_inside _holds c.2
    exact sizeOf_grandchild_lt mem mem'

/-- A call at its position, unfolded. -/
def unfoldAt (owner : String) (data : Value) (c : Placed) : Plan Value :=
  unfold r told c.2 owner data c.1

/-- The children of a call, unfolded on a value of a type: a round of the real ones, and after it a
round of those in the blocks that hold. -/
def unfoldBelow (ns : List Node) (type : String) (v : Value) (path : Path) : Plan Value :=
  (round ((real path ns).any fun c => c.2.isCompose)
    ((real path ns).map (unfoldAt r told type v)) []).andThen fun output =>
      match holding output (conditional path ns) with
      | .error f => .fault (.conditions f)
      | .ok bs =>
        (round ((bs.flatMap inside).any fun c => c.2.isCompose)
          ((bs.flatMap inside).map (unfoldAt r told type v)) output).andThen
            fun output => .succeed (.object output)

theorem unfold_compose (args : Option (Table Value)) (children : List Node) (owner : String)
    (data : Value) (path : Path) :
    unfold r told (.mk Node.composeName args children) owner data path =
      (Plan.each ((placed path children).map (unfoldAt r told owner data))).andThen
        fun results => .succeed (.list results) := by
  have calls := List.attach_map_val (l := placed path children) (f := unfoldAt r told owner data)
  rw [unfold, if_pos rfl, ← calls]
  rfl

theorem unfold_when (args : Option (Table Value)) (children : List Node) (owner : String)
    (data : Value) (path : Path) :
    unfold r told (.mk Node.whenName args children) owner data path =
      .fault (.shape .whenOutside) := by
  rw [unfold, if_neg (by decide), if_pos rfl]

theorem unfold_field {name : String} (args : Option (Table Value)) (children : List Node)
    (owner : String) (data : Value) (path : Path) (compose : name ≠ Node.composeName)
    (when : name ≠ Node.whenName) :
    unfold r told (.mk name args children) owner data path =
      callField r told name args (!children.isEmpty) owner data path
        (unfoldBelow r told children) := by
  rw [unfold, if_neg compose, if_neg when]
  congr
  funext type v path
  have calls (cs : List Placed) := List.attach_map_val (l := cs) (f := unfoldAt r told type v)
  rw [unfoldBelow, ← calls (real path children)]
  congr
  funext output
  split
  · rename_i f holds
    rw [holds]
  · rename_i bs holds
    rw [holds]
    simp only
    rw [← calls (bs.flatMap inside)]
    rfl

end Unfolding

end CallTree
