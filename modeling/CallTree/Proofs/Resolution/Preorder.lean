/-
# CallTree.Proofs.Resolution.Preorder — the unfolded tree from top to bottom.

The calls of a tree are listed in pre-order (`Unfolding.walk`): a call before what is below it, and
siblings in the order of the request. A conditional block is walked through where it stands in the
full list of children, although its calls run after all its siblings, and the items of a list stand in
their order. The walk is a plain recursion over the tree, along what is told of its calls.

The positions of the calls on a walk increase, and nothing on it is below a call that has failed
(`walked_walk`). The calls on the walk are those that the unfolded tree asks for (`lists_unfold`).
-/
import Mathlib.Data.List.Perm.Basic
import CallTree.Proofs.Context
import CallTree.Proofs.Resolution.Blocks
import CallTree.Proofs.Resolution.Positions
import CallTree.Proofs.Resolution.Unfolding

namespace CallTree

namespace Resolution

/-- Siblings stand from left to right. -/
theorem left_placedFrom (path : Path) (i : Nat) (ns : List Node) :
    (placedFrom path i ns).Pairwise fun c d => Path.Left c.1 d.1 := by
  induction ns generalizing i with
  | nil => exact .nil
  | cons n rest ih =>
    rw [placedFrom_cons]
    refine .cons ?_ (ih (i + 1))
    intro c mem
    obtain ⟨j, later, position⟩ := exists_of_mem_placedFrom mem
    rw [position]
    exact Path.left_concat path (by omega)

theorem left_placed (path : Path) (ns : List Node) :
    (placed path ns).Pairwise fun c d => Path.Left c.1 d.1 :=
  left_placedFrom path 0 ns

/-- The items of a list stand from left to right. -/
theorem left_items (path : Path) (items : List Value) :
    items.zipIdx.Pairwise fun x y => Path.Left (path ++ [(x.2 : Int)]) (path ++ [(y.2 : Int)]) := by
  have increasing := @List.pairwise_lt_range' 0 items.length 1 Nat.one_pos
  rw [← List.zipIdx_map_snd, List.pairwise_map] at increasing
  exact increasing.imp fun lt => Path.left_concat path (by omega)

end Resolution

namespace Unfolding

open Resolution

variable (r : Registry) (told : Path → Option (Except Failure Value))

/-! ## The walk -/

/-- **What the real children of a call give together**, where that is known. -/
def output? (children : List Node) (type : String) (v : Value) (path : Path) : Option (Table Value) :=
  (round ((real path children).any fun c => c.2.isCompose)
    ((real path children).map (unfoldAt r told type v)) []).result

/-- Whether a conditional block among children is known to hold. -/
def admits (children : List Node) (type : String) (v : Value) (path : Path) (block : Node) : Bool :=
  match output? r told children type v path with
  | none => false
  | some output => block.holdsOf output

/-- The walk below a call on what its resolver returned. -/
def walkValue (type : Descriptor) (path : Path) (children : String → Value → Path → List Call)
    (v : Value) : List Call :=
  if type.isNative || v.isNull then []
  else if type.isArray then
    (v.items?.getD []).zipIdx.flatMap fun item =>
      if item.1.isNull then [] else children type.name item.1 (path ++ [(item.2 : Int)])
  else children type.name v path

/-- The walk of a call of a field: the call, and if it has returned what is below. -/
def walkField (name : String) (args : Option (Table Value)) (owner : String) (data : Value)
    (path : Path) (children : String → Value → Path → List Call) : List Call :=
  match r.field? owner name with
  | none => []
  | some f =>
    match checkCall r name args f with
    | .error _ => []
    | .ok () =>
      ⟨owner, name, path, args.getD [], data⟩ ::
        match told path with
        | some (.ok v) => walkValue f.type path children v
        | _ => []

/-- **The walk of a call** on a value of a type, in pre-order. -/
def walk (n : Node) (owner : String) (data : Value) (path : Path) : List Call :=
  match n with
  | .mk name args children =>
    if name = Node.composeName then
      (placed path children).attach.flatMap fun c => walk c.1.2 owner data c.1.1
    else if name = Node.whenName then []
    else
      walkField r told name args owner data path fun type v path =>
        (placed path children).attach.flatMap fun c =>
          if c.1.2.isWhen then
            if admits r told children type v path c.1.2 then
              (inside c.1).attach.flatMap fun d => walk d.1.2 type v d.1.1
            else []
          else walk c.1.2 type v c.1.1
termination_by sizeOf n
decreasing_by
  -- The calls of a composition, the calls in a block, and the real children.
  · exact sizeOf_child_lt (mem_of_placed c.2)
  · exact sizeOf_grandchild_lt (mem_of_placed c.2) (mem_of_placed d.2)
  · exact sizeOf_child_lt (mem_of_placed c.2)

/-- A call at its position, walked. -/
def walkAt (owner : String) (data : Value) (c : Placed) : List Call := walk r told c.2 owner data c.1

/-- A child at its position: a call, or the calls of a block that holds. -/
def walkChild (children : List Node) (type : String) (v : Value) (path : Path) (c : Placed) :
    List Call :=
  if c.2.isWhen then
    if admits r told children type v path c.2 then (inside c).flatMap (walkAt r told type v) else []
  else walkAt r told type v c

/-- **The children of a call**, walked through in the order of the request. -/
def walkBelow (children : List Node) (type : String) (v : Value) (path : Path) : List Call :=
  (placed path children).flatMap (walkChild r told children type v path)

theorem flatMap_attach {α β : Type} (l : List α) (f : α → List β) :
    (l.attach.flatMap fun x => f x.1) = l.flatMap f := by
  conv => rhs; rw [← List.attach_map_subtype_val l, List.flatMap_map]

theorem walk_compose (args : Option (Table Value)) (children : List Node) (owner : String)
    (data : Value) (path : Path) :
    walk r told (.mk Node.composeName args children) owner data path =
      (placed path children).flatMap (walkAt r told owner data) := by
  rw [walk, if_pos rfl, ← flatMap_attach (placed path children)]
  rfl

theorem walk_when (args : Option (Table Value)) (children : List Node) (owner : String)
    (data : Value) (path : Path) :
    walk r told (.mk Node.whenName args children) owner data path = [] := by
  rw [walk, if_neg (by decide), if_pos rfl]

theorem walk_field {name : String} (args : Option (Table Value)) (children : List Node)
    (owner : String) (data : Value) (path : Path) (compose : name ≠ Node.composeName)
    (when : name ≠ Node.whenName) :
    walk r told (.mk name args children) owner data path =
      walkField r told name args owner data path (walkBelow r told children) := by
  rw [walk, if_neg compose, if_neg when]
  congr
  funext type v path
  rw [walkBelow, ← flatMap_attach (placed path children)]
  congr
  funext c
  rw [walkChild, ← flatMap_attach (inside c.1)]
  rfl

/-! ## Where the calls of a walk are -/

/-- How two calls of a walk stand, of which one comes first: its position does, and the other is not
below it if it has failed. -/
def Ahead (c d : Call) : Prop :=
  c.path.Before d.path ∧ ∀ failure, told c.path = some (.error failure) → ¬ c.path <+: d.path

/-- **A walk within an area.** -/
structure Walked (area : Path → Prop) (calls : List Call) : Prop where
  within : ∀ c ∈ calls, area c.path
  ahead : calls.Pairwise (Ahead told)

variable {r told}

theorem Ahead.of_left {c d : Call} (h : Path.Left c.path d.path) : Ahead told c d :=
  ⟨h.before, fun _ _ => h.apart.1⟩

theorem Walked.nil (area : Path → Prop) : Walked told area [] := ⟨nofun, .nil⟩

/-- Walks that stand from left to right, one after the other. -/
theorem Walked.flatMap {β : Type} {area : Path → Prop} {entries : List β} {place : β → Path}
    {calls : β → List Call} (left : entries.Pairwise fun x y => Path.Left (place x) (place y))
    (each : ∀ x ∈ entries, Walked told (place x <+: ·) (calls x))
    (inside : ∀ x ∈ entries, ∀ p, place x <+: p → area p) :
    Walked told area (entries.flatMap calls) where
  within c mem := by
    obtain ⟨x, hx, hc⟩ := List.mem_flatMap.1 mem
    exact inside x hx _ ((each x hx).within c hc)
  ahead := by
    refine List.pairwise_flatMap.2 ⟨fun x mem => (each x mem).ahead, ?_⟩
    refine left.imp_of_mem ?_
    intro x y hx hy apart c hc d hd
    exact .of_left (apart.extend ((each x hx).within c hc) ((each y hy).within d hd))

/-- Placed calls, walked through one after the other. -/
theorem walked_placed {path : Path} {ns : List Node} {calls : Placed → List Call}
    (each : ∀ c ∈ placed path ns, Walked told (c.1 <+: ·) (calls c)) :
    Walked told path.Above ((placed path ns).flatMap calls) :=
  .flatMap (left_placed path ns) each fun _ mem _ => (above_of_placed mem).extend

theorem Walked.strictly {path : Path} {calls : List Call} (h : Walked told path.Above calls) :
    Walked told (path <+: ·) calls :=
  ⟨fun c mem => (h.within c mem).1, h.ahead⟩

theorem walked_walkValue {type : Descriptor} {path : Path}
    {children : String → Value → Path → List Call} (v : Value)
    (below : ∀ data path, Walked told path.Above (children type.name data path)) :
    Walked told path.Above (walkValue type path children v) := by
  unfold walkValue
  split
  · exact .nil _
  · split
    · refine .flatMap (left_items path _) (fun item _ => ?_)
        fun item _ _ => (path.above_concat item.2).extend
      split
      · exact .nil _
      · exact (below _ _).strictly
    · exact below v path

theorem walked_walkField {name : String} {args : Option (Table Value)} {owner : String}
    {data : Value} {path : Path} {children : String → Value → Path → List Call}
    (below : ∀ type data path, Walked told path.Above (children type data path)) :
    Walked told (path <+: ·) (walkField r told name args owner data path children) := by
  unfold walkField
  split
  · exact .nil _
  · split
    · exact .nil _
    · split
      · rename_i f _ _ _ _ v returned
        have later : Walked told path.Above (walkValue f.type path children v) :=
          walked_walkValue v (below f.type.name)
        refine ⟨?_, .cons ?_ later.ahead⟩
        · rw [List.forall_mem_cons]
          exact ⟨List.prefix_refl _, fun c mem => (later.within c mem).1⟩
        · intro d mem
          refine ⟨(later.within d mem).before, fun failure failed => ?_⟩
          rw [show told path = some (.error failure) from failed] at returned
          cases returned
      · exact ⟨fun c mem => List.mem_singleton.1 mem ▸ List.prefix_refl _,
          List.pairwise_singleton _ _⟩

/-- **The positions on a walk increase**, and nothing on it is below a call that has failed. -/
theorem walked_walk (n : Node) :
    ∀ owner data path, Walked told (path <+: ·) (walk r told n owner data path) := by
  induction n using Node.induct with
  | compose args children ih =>
    intro owner data path
    rw [walk_compose]
    exact (walked_placed fun c mem => ih c.2 (mem_of_placed mem) owner data c.1).strictly
  | when args children =>
    intro owner data path
    rw [walk_when]
    exact .nil _
  | field name args children noCompose noWhen ih ihBlocks =>
    intro owner data path
    rw [walk_field r told args children owner data path noCompose noWhen]
    refine walked_walkField fun type v path => walked_placed fun c mem => ?_
    have child := mem_of_placed mem
    unfold walkChild
    split
    · split
      · exact (walked_placed fun d inside =>
          ihBlocks c.2 child d.2 (mem_of_placed inside) type v d.1).strictly
      · exact .nil _
    · exact ih c.2 child type v c.1

/-! ## The calls that the tree asks for -/

/-- **A walk lists a plan**: what is planned is on the walk, and there is nothing else on it where the
result is known. -/
structure Lists {α : Type} (plan : Plan α) (calls : List Call) : Prop where
  among : plan.asked ⊆ calls
  whole : ∀ a, plan.result = some a → plan.asked.Perm calls

theorem Lists.succeed {α : Type} (a : α) : Lists (.succeed a) [] := ⟨nofun, fun _ _ => .nil⟩

theorem Lists.unknown {α : Type} {plan : Plan α} {calls : List Call} (none : plan.result = none)
    (among : plan.asked ⊆ calls) : Lists plan calls :=
  ⟨among, fun a known => by rw [none] at known; cases known⟩

theorem Lists.perm {α : Type} {plan : Plan α} {calls calls' : List Call} (h : Lists plan calls)
    (same : calls.Perm calls') : Lists plan calls' :=
  ⟨fun _ mem => same.mem_iff.1 (h.among mem), fun a known => (h.whole a known).trans same⟩

theorem asked_andThen {α β : Type} {p : Plan α} {a : α} (h : p.result = some a) (k : α → Plan β) :
    (p.andThen k).asked = p.asked ++ (k a).asked := by
  rw [Plan.andThen_of_result h, Plan.asked, List.map_append, List.map_map]
  rfl

/-- One after the other; what comes later is listed where it is known. -/
theorem Lists.andThen {α β : Type} {p : Plan α} {k : α → Plan β} {calls later : List Call}
    (first : Lists p calls) (second : ∀ a, p.result = some a → Lists (k a) later) :
    Lists (p.andThen k) (calls ++ later) := by
  cases known : p.result with
  | none =>
    have same : p.andThen k = ⟨none, p.calls, p.faults⟩ := by rw [Plan.andThen, known]
    rw [same]
    exact .unknown rfl (List.subset_append_of_subset_left _ first.among)
  | some a =>
    have after := second a known
    refine ⟨?_, fun b result => ?_⟩
    · rw [asked_andThen known]
      exact List.append_subset.2 ⟨List.subset_append_of_subset_left _ first.among,
        List.subset_append_of_subset_right _ after.among⟩
    · rw [asked_andThen known]
      rw [Plan.andThen_of_result known] at result
      exact (first.whole a known).append (after.whole b result)

theorem eq_map_some_of_allSome {α : Type} {l : List (Option α)} {values : List α}
    (h : l.allSome = some values) : l = values.map some := by
  induction l generalizing values with
  | nil =>
    cases h
    rfl
  | cons x rest ih =>
    rw [List.allSome, List.mapM_cons] at h
    obtain ⟨a, rfl, others⟩ := Option.bind_eq_some_iff.1 h
    obtain ⟨as, found, same⟩ := Option.bind_eq_some_iff.1 others
    cases same
    rw [List.map_cons, ih found]

/-- Side by side. -/
theorem Lists.each {α β : Type} {entries : List β} {plan : β → Plan α} {calls : β → List Call}
    (lists : ∀ x ∈ entries, Lists (plan x) (calls x)) :
    Lists (Plan.each (entries.map plan)) (entries.flatMap calls) := by
  have asked : (Plan.each (entries.map plan)).asked = entries.flatMap fun x => (plan x).asked := by
    rw [Plan.asked, Plan.each, List.map_flatMap, List.flatMap_map]
    rfl
  refine ⟨?_, fun values known => ?_⟩
  · rw [asked]
    intro c mem
    obtain ⟨x, hx, hc⟩ := List.mem_flatMap.1 mem
    exact List.mem_flatMap.2 ⟨x, hx, (lists x hx).among hc⟩
  · rw [asked]
    have each := eq_map_some_of_allSome known
    refine List.Perm.flatMap_left _ fun x hx => ?_
    -- The result of each is known where that of all is.
    have here : (plan x).result ∈ values.map some := by
      rw [← each, List.map_map]
      exact List.mem_map_of_mem hx
    obtain ⟨a, -, known⟩ := List.mem_map.1 here
    exact (lists x hx).whole a known.symm

theorem lists_round {cs : List Placed} {type : String} {v : Value} {composes : Bool}
    {output : Table Value}
    (each : ∀ c ∈ cs, Lists (unfoldAt r told type v c) (walkAt r told type v c)) :
    Lists (round composes (cs.map (unfoldAt r told type v)) output)
      (cs.flatMap (walkAt r told type v)) := by
  unfold round
  split
  · exact .unknown rfl (List.nil_subset _)
  · rw [← List.append_nil (cs.flatMap _)]
    exact .andThen (.each each) fun _ _ => .succeed _

theorem flatMap_filter_eq {α β : Type} (p : α → Bool) (f : α → List β) (l : List α) :
    (l.filter p).flatMap f = l.flatMap fun x => if p x then f x else [] := by
  induction l with
  | nil => rfl
  | cons x rest ih =>
    rw [List.filter_cons, List.flatMap_cons, ← ih]
    split
    · rfl
    · rfl

/-- The walk of children has the real ones first, but for the order. -/
theorem walkBelow_perm (ns : List Node) (type : String) (v : Value) (path : Path) :
    ((real path ns).flatMap (walkAt r told type v) ++
      (((conditional path ns).filter fun c => admits r told ns type v path c.2).flatMap inside).flatMap
        (walkAt r told type v)).Perm (walkBelow r told ns type v path) := by
  have reals : (real path ns).flatMap (walkAt r told type v) =
      (real path ns).flatMap (walkChild r told ns type v path) := by
    refine List.flatMap_congr fun c mem => ?_
    have isReal : c.2.isWhen = false := Bool.not_eq_true' _ ▸ (List.mem_filter.1 mem).2
    rw [walkChild, isReal]
    rfl
  have blocks : (((conditional path ns).filter fun c =>
      admits r told ns type v path c.2).flatMap inside).flatMap (walkAt r told type v) =
      (conditional path ns).flatMap (walkChild r told ns type v path) := by
    rw [List.flatMap_assoc, flatMap_filter_eq]
    refine List.flatMap_congr fun c mem => ?_
    have isWhen : c.2.isWhen = true := (List.mem_filter.1 mem).2
    rw [walkChild, isWhen]
    rfl
  rw [reals, blocks, ← List.flatMap_append, walkBelow]
  refine List.Perm.flatMap_right _ ?_
  have split := List.filter_append_perm (fun c : Placed => !c.2.isWhen) (placed path ns)
  simp only [Bool.not_not] at split
  exact split

theorem lists_unfoldBelow {ns : List Node} {type : String} {v : Value} {path : Path}
    (children : ∀ c ∈ ns, ∀ path,
      Lists (unfold r told c type v path) (walk r told c type v path))
    (inBlocks : ∀ d ∈ ns, ∀ c ∈ d.children, ∀ path,
      Lists (unfold r told c type v path) (walk r told c type v path)) :
    Lists (unfoldBelow r told ns type v path) (walkBelow r told ns type v path) := by
  refine .perm (.andThen (lists_round fun c mem => children c.2 (mem_of_real mem) c.1) ?_)
    (walkBelow_perm ns type v path)
  intro output known
  have admitted : (fun c : Placed => admits r told ns type v path c.2) =
      fun c => c.2.holdsOf output := by
    funext c
    rw [admits, output?, known]
  rw [admitted]
  cases holds : holding output (conditional path ns) with
  | error f => exact .unknown rfl (List.nil_subset _)
  | ok bs =>
    obtain ⟨-, rfl⟩ := holding_eq_ok_iff.1 holds
    rw [← List.append_nil (List.flatMap _ _)]
    refine .andThen (lists_round fun c mem => ?_) fun _ _ => .succeed _
    obtain ⟨d, hd, here⟩ := mem_of_inside holds mem
    exact inBlocks d hd c.2 here c.1

theorem lists_complete {name : String} {type : Descriptor} {hasChildren : Bool} {path : Path}
    {children : String → Value → Path → Plan Value} {calls : String → Value → Path → List Call}
    (v : Value)
    (below : ∀ data path, Lists (children type.name data path) (calls type.name data path)) :
    Lists (complete name type hasChildren path children v) (walkValue type path calls v) := by
  unfold complete walkValue
  by_cases native : type.isNative
  · rw [if_pos native, if_pos (by rw [native]; rfl)]
    split
    · exact .unknown rfl (List.nil_subset _)
    · exact .succeed _
  · rw [if_neg native]
    split
    · exact .unknown rfl (List.nil_subset _)
    · unfold descend
      by_cases null : v.isNull
      · rw [if_pos null, if_pos (by rw [null, Bool.or_true])]
        exact .succeed _
      · have present : ¬ (type.isNative || v.isNull) = true := by
          rw [Bool.or_eq_true, not_or]
          exact ⟨native, null⟩
        rw [if_neg null, if_neg present]
        by_cases array : type.isArray
        · rw [if_pos array, if_pos array, List.mapIdx_eq_zipIdx_map, Plan.andThen_succeed,
            ← List.append_nil (List.flatMap _ _)]
          refine .andThen (.each ?_) fun _ _ => .succeed _
          rintro ⟨item, i⟩ -
          simp only
          by_cases none : item.isNull
          · rw [if_pos none, if_pos none]
            exact .succeed _
          · rw [if_neg none, if_neg none]
            exact below _ _
        · rw [if_neg array, if_neg array, ← List.append_nil (calls _ _ _)]
          exact .andThen (below v path) fun _ _ => .succeed _

/-- **The calls on a walk** are those that the unfolded tree asks for, where its result is known. -/
theorem lists_unfold (n : Node) : ∀ owner data path,
    Lists (unfold r told n owner data path) (walk r told n owner data path) := by
  induction n using Node.induct with
  | compose args children ih =>
    intro owner data path
    rw [unfold_compose, walk_compose, ← List.append_nil (List.flatMap _ _)]
    exact .andThen (.each fun c mem => ih c.2 (mem_of_placed mem) owner data c.1)
      fun _ _ => .succeed _
  | when args children =>
    intro owner data path
    rw [unfold_when]
    exact .unknown rfl (List.nil_subset _)
  | field name args children noCompose noWhen ih ihBlocks =>
    intro owner data path
    rw [unfold_field r told args children owner data path noCompose noWhen,
      walk_field r told args children owner data path noCompose noWhen, callField, walkField]
    cases r.field? owner name with
    | none => exact .unknown rfl (List.nil_subset _)
    | some f =>
      simp only
      cases checkCall r name args f with
      | error e => exact .unknown rfl (List.nil_subset _)
      | ok _ =>
        simp only
        rw [← List.singleton_append]
        refine .andThen ⟨List.Subset.refl _, fun _ _ => .refl _⟩ fun _ _ => ?_
        rcases told path with _ | failure | v
        · exact .unknown rfl (List.nil_subset _)
        · exact .succeed _
        · refine lists_complete v fun data path => lists_unfoldBelow (fun c mem => ih c mem _ data) ?_
          exact fun d mem c inside => ihBlocks d mem c inside _ data

end Unfolding

end CallTree
