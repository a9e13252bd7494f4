/-
# CallTree.Proofs.Sequential.Breaches — the violations of a call tree, each at its position.

A call tree without conditional blocks is walked from top to bottom, each call by itself, and every
violation is told of with the position of the call that raises it (`breaches`). A composition among the
children of a call is a violation of the call above them, or of the item of a list that they are resolved
on. Without their positions these are the violations that a survey tells of (`violations_eq`).
-/
import CallTree.Proofs.Execution.Schedules

namespace CallTree

/-- **A call tree without conditional blocks**: there is none among the children of a call. -/
inductive Node.Unblocked : Node → Prop where
  | compose {args : Option (Table Value)} {children : List Node}
      (each : ∀ c ∈ children, Unblocked c) : Unblocked (.mk composeName args children)
  | when {args : Option (Table Value)} {children : List Node} :
      Unblocked (.mk whenName args children)
  | field {name : String} {args : Option (Table Value)} {children : List Node}
      (noCompose : name ≠ composeName) (noWhen : ∀ c ∈ children, c.isWhen = false)
      (each : ∀ c ∈ children, Unblocked c) : Unblocked (.mk name args children)

namespace Sequential

open Resolution

/-- **A violation at a position.** -/
abbrev Breach := Path × Abort

namespace Breach

/-- The violations below a call on what its resolver returned. -/
def descend (type : Descriptor) (path : Path) (children : String → Value → Path → List Breach)
    (v : Value) : List Breach :=
  if v.isNull then []
  else if type.isArray then
    ((v.items?.getD []).mapIdx fun i item =>
      if item.isNull then [] else children type.name item (path ++ [(i : Int)])).flatten
  else children type.name v path

/-- The violations of what a resolver returned, and those below. -/
def complete (name : String) (type : Descriptor) (hasChildren : Bool) (path : Path)
    (children : String → Value → Path → List Breach) (v : Value) : List Breach :=
  if type.isNative then
    match Check.nativeResult type hasChildren v with
    | .error f => [(path, .result name f)]
    | .ok () => []
  else
    match Check.customResult type hasChildren v with
    | .error f => [(path, .result name f)]
    | .ok () => descend type path children v

/-- The violations of a call of a field, and those below. -/
def callField (r : Registry) (answers : Answers) (name : String) (args : Option (Table Value))
    (hasChildren : Bool) (owner : String) (data : Value) (path : Path)
    (children : String → Value → Path → List Breach) : List Breach :=
  match r.field? owner name with
  | none => [(path, .shape (.unknownName name))]
  | some f =>
    match checkCall r name args f with
    | .error e => [(path, e)]
    | .ok () =>
      match answers owner name (args.getD []) data with
      | .error _ => []
      | .ok v => complete name f.type hasChildren path children v

end Breach

section

variable (r : Registry) (answers : Answers)

/-- **The violations of a call** without conditional blocks, on a value of a type. -/
def breaches (n : Node) (owner : String) (data : Value) (path : Path) : List Breach :=
  match n with
  | .mk name args children =>
    if name = Node.composeName then
      ((placed path children).attach.map fun c => breaches c.1.2 owner data c.1.1).flatten
    else if name = Node.whenName then [(path, .shape .whenOutside)]
    else
      Breach.callField r answers name args (!children.isEmpty) owner data path fun type v path =>
        if children.any Node.isCompose then [(path, .shape .composeInside)]
        else ((placed path children).attach.map fun c => breaches c.1.2 type v c.1.1).flatten
termination_by sizeOf n
decreasing_by
  all_goals exact sizeOf_child_lt (mem_of_placed c.2)

/-- The violations of a call at its position. -/
def breachesAt (owner : String) (data : Value) (c : Placed) : List Breach :=
  breaches r answers c.2 owner data c.1

/-- The violations of the children of a call on a value of a type. -/
def breachesBelow (ns : List Node) (type : String) (v : Value) (path : Path) : List Breach :=
  if ns.any Node.isCompose then [(path, .shape .composeInside)]
  else ((placed path ns).map (breachesAt r answers type v)).flatten

theorem breaches_compose (args : Option (Table Value)) (children : List Node) (owner : String)
    (data : Value) (path : Path) :
    breaches r answers (.mk Node.composeName args children) owner data path =
      ((placed path children).map (breachesAt r answers owner data)).flatten := by
  have calls := List.attach_map_val (l := placed path children)
    (f := breachesAt r answers owner data)
  rw [breaches, if_pos rfl, ← calls]
  rfl

theorem breaches_when (args : Option (Table Value)) (children : List Node) (owner : String)
    (data : Value) (path : Path) :
    breaches r answers (.mk Node.whenName args children) owner data path =
      [(path, .shape .whenOutside)] := by
  rw [breaches, if_neg (by decide), if_pos rfl]

theorem breaches_field {name : String} (args : Option (Table Value)) (children : List Node)
    (owner : String) (data : Value) (path : Path) (compose : name ≠ Node.composeName)
    (when : name ≠ Node.whenName) :
    breaches r answers (.mk name args children) owner data path =
      Breach.callField r answers name args (!children.isEmpty) owner data path
        (breachesBelow r answers children) := by
  rw [breaches, if_neg compose, if_neg when]
  congr
  funext type v path
  have calls := List.attach_map_val (l := placed path children) (f := breachesAt r answers type v)
  rw [breachesBelow, ← calls]
  rfl

end

/-! ## Without positions -/

/-- What a survey tells of. -/
def faultsOf {α : Type} : Survey α → List Abort
  | .error es => es
  | .ok _ => []

section

variable {α β : Type}

theorem faultsOf_andThen (v : Survey α) (f : α → β) :
    faultsOf (v.andThen fun a => .succeed (f a)) = faultsOf v := by
  rcases v with es | ⟨a, log⟩ <;> rfl

theorem faultsOf_after (a : α) (log : List Journal.Event) (k : α → Survey β) :
    faultsOf (Verdict.andThen (.ok (a, log)) k) = faultsOf (k a) := by
  simp only [Verdict.andThen]
  rcases k a with es | ⟨b, more⟩ <;> rfl

theorem faultsOf_each (vs : List (Survey α)) :
    faultsOf (each .all vs) = (vs.map faultsOf).flatten := by
  induction vs with
  | nil => rfl
  | cons v rest ih =>
    rw [List.map_cons, List.flatten_cons, ← ih]
    rcases v with es | ⟨a, log⟩
    · rw [each]
      cases each .all rest with
      | error es' => rfl
      | ok found => exact (List.append_nil es).symm
    · rw [each]
      cases each .all rest <;> rfl

/-- Side by side, the violations of each. -/
theorem faultsOf_side {entries : List β} {v : β → Survey α} {parts : β → List Breach}
    (same : ∀ x ∈ entries, faultsOf (v x) = (parts x).map Prod.snd) :
    faultsOf (each .all (entries.map v)) = (entries.map parts).flatten.map Prod.snd := by
  rw [faultsOf_each, List.map_flatten, List.map_map, List.map_map]
  exact congrArg List.flatten (List.map_congr_left same)

end

variable {r : Registry} {answers : Answers}

theorem faultsOf_below {ns : List Node} (noWhen : ∀ c ∈ ns, c.isWhen = false) {type : String}
    {data : Value} {path : Path}
    (same : ∀ c ∈ ns, ∀ path, faultsOf (evaluate .all r answers c type data path) =
      (breaches r answers c type data path).map Prod.snd) :
    faultsOf (evaluateBelow .all r answers ns type data path) =
      (breachesBelow r answers ns type data path).map Prod.snd := by
  rw [evaluateBelow_plain .all r answers noWhen, faultsOf_andThen, round, breachesBelow]
  split
  · rfl
  · rw [faultsOf_andThen]
    exact faultsOf_side fun c mem => same c.2 (mem_of_placed mem) c.1

theorem faultsOf_descend {type : Descriptor} {path : Path}
    {children : String → Value → Path → Survey Value}
    {children' : String → Value → Path → List Breach} {v : Value}
    (same : ∀ data path, faultsOf (children type.name data path) =
      (children' type.name data path).map Prod.snd) :
    faultsOf (descend .all type path children v) =
      (Breach.descend type path children' v).map Prod.snd := by
  unfold descend Breach.descend
  split
  · rfl
  · split
    · rw [faultsOf_andThen, List.mapIdx_eq_zipIdx_map, List.mapIdx_eq_zipIdx_map]
      refine faultsOf_side ?_
      intro item _
      by_cases null : item.1.isNull
      · simp only [if_pos null]
        rfl
      · simp only [if_neg null]
        exact same _ _
    · exact same v path

theorem faultsOf_complete {name : String} {type : Descriptor} {hasChildren : Bool} {path : Path}
    {children : String → Value → Path → Survey Value}
    {children' : String → Value → Path → List Breach} {v : Value}
    (same : ∀ data path, faultsOf (children type.name data path) =
      (children' type.name data path).map Prod.snd) :
    faultsOf (complete .all name type hasChildren path children v) =
      (Breach.complete name type hasChildren path children' v).map Prod.snd := by
  unfold complete Breach.complete
  split
  · cases Check.nativeResult type hasChildren v <;> rfl
  · cases Check.customResult type hasChildren v with
    | error f => rfl
    | ok _ => exact (faultsOf_andThen _ _).trans (faultsOf_descend same)

/-- **A survey tells of the violations**, from top to bottom. -/
theorem faultsOf_evaluate {n : Node} (unblocked : n.Unblocked) :
    ∀ (owner : String) (data : Value) (path : Path),
      faultsOf (evaluate .all r answers n owner data path) =
        (breaches r answers n owner data path).map Prod.snd := by
  induction unblocked with
  | compose _ ih =>
    intro owner data path
    rw [evaluate_compose, breaches_compose, faultsOf_andThen]
    exact faultsOf_side fun c mem => ih c.2 (mem_of_placed mem) owner data c.1
  | when =>
    intro owner data path
    rw [evaluate_when, breaches_when]
    rfl
  | @field name args children noCompose noWhen _ ih =>
    intro owner data path
    by_cases isWhen : name = Node.whenName
    · subst isWhen
      rw [evaluate_when, breaches_when]
      rfl
    · rw [evaluate_field _ _ _ _ _ _ _ _ noCompose isWhen,
        breaches_field _ _ _ _ _ _ _ noCompose isWhen, callField, Breach.callField]
      cases r.field? owner name with
      | none => rfl
      | some f =>
        simp only
        cases checkCall r name args f with
        | error e => rfl
        | ok _ =>
          simp only
          cases answers owner name (args.getD []) data with
          | error failure => rfl
          | ok v =>
            refine (faultsOf_after _ _ _).trans (faultsOf_complete ?_)
            intro data path
            exact faultsOf_below noWhen fun c mem path => ih c mem f.type.name data path

/-- **The violations without their positions.** -/
theorem violations_eq {n : Node} (unblocked : n.Unblocked) : violations r answers n =
    (breaches r answers n Registry.rootName .null []).map Prod.snd := by
  rw [← faultsOf_evaluate unblocked, violations, survey]
  cases evaluate .all r answers n Registry.rootName .null [] <;> rfl

end Sequential

end CallTree
