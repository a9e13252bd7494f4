/-
# CallTree.Proofs.Resolution.Calls — resolution as lists of calls at their positions.

The resolver of call trees walks lists of children with a running position. Here these walks are read
as maps: children at their positions (`placed`), those that are calls (`real`), and those that are
conditional blocks (`conditional`). `resolveBelow_eq` then says in one line each what the two rounds
of a call's children are.

Every scope that a resolution comes to is that of a type of the registry (`Scope.In`).
-/
import CallTree.Resolution

namespace CallTree

/-- A property of all call trees: of compositions from their calls, of conditional blocks as such, and
of calls of fields from the calls below. Besides the children these are the calls in conditional
blocks, which are resolved in the place of the block. -/
theorem Node.induct {motive : Node → Prop}
    (compose : ∀ args children, (∀ c ∈ children, motive c) →
      motive (.mk composeName args children))
    (when : ∀ args children, motive (.mk whenName args children))
    (field : ∀ name args children, name ≠ composeName → name ≠ whenName →
      (∀ c ∈ children, motive c) → (∀ b ∈ children, ∀ c ∈ b.children, motive c) →
        motive (.mk name args children)) (n : Node) : motive n := by
  have step (name : String) (args : Option (Table Value)) (children : List Node)
      (each : ∀ c ∈ children, motive c) (inBlocks : ∀ b ∈ children, ∀ c ∈ b.children, motive c) :
      motive (.mk name args children) := by
    by_cases isCompose : name = composeName
    · subst isCompose
      exact compose args children each
    · by_cases isWhen : name = whenName
      · subst isWhen
        exact when args children
      · exact field name args children isCompose isWhen each inBlocks
  -- A block is no call itself, so the induction carries the children of a call along.
  have both : ∀ n : Node, motive n ∧ ∀ c ∈ n.children, motive c := go step
  exact (both n).1
where
  go {motive : Node → Prop}
      (step : ∀ name args children, (∀ c ∈ children, motive c) →
        (∀ b ∈ children, ∀ c ∈ b.children, motive c) → motive (.mk name args children)) :
      ∀ n : Node, motive n ∧ ∀ c ∈ n.children, motive c
    | .mk name args children =>
      have below : ∀ c ∈ children, motive c ∧ ∀ d ∈ c.children, motive d := fun c _ => go step c
      ⟨step name args children (fun c mem => (below c mem).1) fun b mem => (below b mem).2,
        fun c mem => (below c mem).1⟩

/-- The conditions of a block. -/
def Node.conditions (n : Node) : Value := (n.args.map Value.object).getD .null

/-- The field of a name in a type. -/
def Registry.field? (r : Registry) (owner name : String) : Option Field :=
  ((r.chunk? owner).getD []).get? name

/-- The scope of a type on a value. -/
def Scope.of (r : Registry) (owner : String) (data : Value) : Scope :=
  ⟨owner, (r.chunk? owner).getD [], data⟩

/-- **A scope in a registry**: its chunk is that of its owner. -/
def Scope.In (r : Registry) (scope : Scope) : Prop :=
  scope.chunk = (r.chunk? scope.owner).getD []

theorem Scope.in_of (r : Registry) (owner : String) (data : Value) : (Scope.of r owner data).In r :=
  rfl

theorem Scope.In.get? {r : Registry} {scope : Scope} (h : scope.In r) (name : String) :
    scope.chunk.get? name = r.field? scope.owner name := by
  rw [h, Registry.field?]

namespace Resolution

/-! ## Children at their positions -/

/-- A call at its position. -/
abbrev Placed := Path × Node

/-- Calls at consecutive positions below a path. -/
def placedFrom (path : Path) (i : Nat) (ns : List Node) : List Placed :=
  (ns.zipIdx i).map fun e => (path ++ [(e.2 : Int)], e.1)

/-- **Children at their positions** below a path. -/
def placed (path : Path) (ns : List Node) : List Placed := placedFrom path 0 ns

/-- The calls among children. -/
def real (path : Path) (ns : List Node) : List Placed :=
  (placed path ns).filter fun c => !c.2.isWhen

/-- The conditional blocks among children. -/
def conditional (path : Path) (ns : List Node) : List Placed :=
  (placed path ns).filter fun c => c.2.isWhen

/-- The calls in a block. -/
def inside (c : Placed) : List Placed := placed c.1 c.2.children

theorem placedFrom_cons (path : Path) (i : Nat) (n : Node) (rest : List Node) :
    placedFrom path i (n :: rest) = (path ++ [(i : Int)], n) :: placedFrom path (i + 1) rest := by
  rw [placedFrom, List.zipIdx_cons, List.map_cons]
  rfl

/-- The calls at the positions are the children. -/
theorem map_snd_placedFrom (path : Path) (i : Nat) (ns : List Node) :
    (placedFrom path i ns).map Prod.snd = ns := by
  induction ns generalizing i with
  | nil => rfl
  | cons n rest ih => rw [placedFrom_cons, List.map_cons, ih]

theorem map_snd_placed (path : Path) (ns : List Node) : (placed path ns).map Prod.snd = ns :=
  map_snd_placedFrom path 0 ns

theorem length_placed (path : Path) (ns : List Node) : (placed path ns).length = ns.length := by
  rw [← List.length_map Prod.snd, map_snd_placed]

theorem getElem?_placed (path : Path) (ns : List Node) (i : Nat) :
    (placed path ns)[i]? = ns[i]?.map fun n => (path ++ [(i : Int)], n) := by
  rw [placed, placedFrom, List.getElem?_map, List.getElem?_zipIdx, Option.map_map, Nat.zero_add]
  rfl

theorem mem_of_placed {path : Path} {ns : List Node} {c : Placed} (h : c ∈ placed path ns) :
    c.2 ∈ ns := by
  rw [← map_snd_placed path ns]
  exact List.mem_map_of_mem h

/-- A child is smaller than its call. -/
theorem sizeOf_child_lt {name : String} {args : Option (Table Value)} {ns : List Node} {c : Node}
    (mem : c ∈ ns) : sizeOf c < sizeOf (Node.mk name args ns) := by
  have smaller := List.sizeOf_lt_of_mem mem
  rw [Node.mk.sizeOf_spec]
  omega

/-- A child of a child is smaller too. -/
theorem sizeOf_grandchild_lt {name : String} {args : Option (Table Value)} {ns : List Node} {b c : Node}
    (mem : b ∈ ns) (mem' : c ∈ b.children) : sizeOf c < sizeOf (Node.mk name args ns) := by
  obtain ⟨_, _, grandchildren⟩ := b
  exact Nat.lt_trans (sizeOf_child_lt mem') (sizeOf_child_lt mem)

/-- A call at a position, resolved. -/
def resolveAt (r : Registry) (scope : Scope) (c : Placed) : Work := resolve r c.2 scope c.1

/-- A conditional block at a position. -/
def blockAt (r : Registry) (scope : Scope) (c : Placed) : Block where
  conditions := c.2.conditions
  composes := c.2.children.any Node.isCompose
  calls := (inside c).map (resolveAt r scope)

theorem resolveAll_eq (r : Registry) (ns : List Node) (scope : Scope) (path : Path) (i : Nat) :
    resolveAll r ns scope path i = (placedFrom path i ns).map (resolveAt r scope) := by
  induction ns generalizing i with
  | nil => rfl
  | cons n rest ih =>
    rw [resolveAll, ih, placedFrom_cons, List.map_cons]
    rfl

theorem calls_eq (r : Registry) (ns : List Node) (scope : Scope) (path : Path) (i : Nat) :
    calls r ns scope path i =
      ((placedFrom path i ns).filter fun c => !c.2.isWhen).map (resolveAt r scope) := by
  induction ns generalizing i with
  | nil => rfl
  | cons n rest ih =>
    rw [calls, placedFrom_cons, List.filter_cons, ih]
    cases n.isWhen <;> rfl

theorem blocks_eq (r : Registry) (ns : List Node) (scope : Scope) (path : Path) (i : Nat) :
    blocks r ns scope path i =
      ((placedFrom path i ns).filter fun c => c.2.isWhen).map (blockAt r scope) := by
  induction ns generalizing i with
  | nil => rfl
  | cons n rest ih =>
    obtain ⟨name, args, children⟩ := n
    rw [blocks, placedFrom_cons, List.filter_cons, ih]
    by_cases when : name = Node.whenName
    · have isWhen : (Node.mk name args children).isWhen = true := decide_eq_true when
      rw [if_pos when, if_pos isWhen, List.map_cons, blockAt, inside, placed, resolveAll_eq]
      rfl
    · have isWhen : (Node.mk name args children).isWhen = false := decide_eq_false when
      rw [if_neg when, isWhen]
      rfl

/-! ## The children of a call -/

/-- The blocks that hold of an output. -/
def holding (output : Table Value) : List Placed → Except Condition.Fault (List Placed)
  | [] => .ok []
  | c :: rest =>
    match Condition.pass c.2.conditions output with
    | .error f => .error f
    | .ok holds => (holding output rest).map fun blocks => if holds then c :: blocks else blocks

/-- The blocks that hold are among the blocks, in their order. -/
theorem sublist_of_holding {output : Table Value} {cs bs : List Placed}
    (h : holding output cs = .ok bs) : bs.Sublist cs := by
  induction cs generalizing bs with
  | nil =>
    cases h
    exact .slnil
  | cons c rest ih =>
    rw [holding] at h
    split at h
    · cases h
    · rename_i holds _
      cases others : holding output rest with
      | error f =>
        rw [others] at h
        cases h
      | ok blocks =>
        rw [others] at h
        cases h
        cases holds with
        | true => exact (ih others).cons_cons c
        | false => exact (ih others).cons c

theorem mem_of_real {path : Path} {ns : List Node} {c : Placed} (h : c ∈ real path ns) :
    c.2 ∈ ns :=
  mem_of_placed (List.mem_filter.1 h).1

/-- Without conditional blocks all children are real. -/
theorem real_eq_placed {ns : List Node} (noWhen : ∀ c ∈ ns, c.isWhen = false) (path : Path) :
    real path ns = placed path ns :=
  List.filter_eq_self.2 fun c mem => by rw [noWhen c.2 (mem_of_placed mem)]; rfl

theorem conditional_eq_nil {ns : List Node} (noWhen : ∀ c ∈ ns, c.isWhen = false) (path : Path) :
    conditional path ns = [] :=
  List.filter_eq_nil_iff.2 fun c mem => by
    rw [noWhen c.2 (mem_of_placed mem)]
    exact Bool.false_ne_true

/-- The calls in the blocks that hold are those of some of the children. -/
theorem mem_of_inside {output : Table Value} {path : Path} {ns : List Node} {bs : List Placed}
    (h : holding output (conditional path ns) = .ok bs) {c : Placed} (mem : c ∈ bs.flatMap inside) :
    ∃ b ∈ ns, c.2 ∈ b.children := by
  obtain ⟨b, hb, hc⟩ := List.mem_flatMap.1 mem
  have block : b ∈ placed path ns := (List.mem_filter.1 ((sublist_of_holding h).mem hb)).1
  exact ⟨b.2, mem_of_placed block, mem_of_placed hc⟩

theorem admitted_map (r : Registry) (scope : Scope) (output : Table Value) (cs : List Placed) :
    admitted output (cs.map (blockAt r scope)) =
      (holding output cs).map (List.map (blockAt r scope)) := by
  induction cs with
  | nil => rfl
  | cons c rest ih =>
    rw [List.map_cons, admitted, holding, ih]
    have same : (blockAt r scope c).conditions = c.2.conditions := rfl
    rw [same]
    cases Condition.pass c.2.conditions output with
    | error f => rfl
    | ok holds =>
      cases holding output rest with
      | error f => rfl
      | ok blocks => cases holds <;> rfl

/-- Objects of one key each are the entries of a table. -/
theorem exists_entries {names : List String} {values : List Value}
    (length : values.length = names.length)
    (single : ∀ (i : Nat) (name : String) (v : Value), names[i]? = some name →
      values[i]? = some v → ∃ w, v = .single name w) :
    ∃ entries : List (String × Value), entries.map Prod.fst = names ∧
      values = entries.map fun e => .single e.1 e.2 := by
  induction names generalizing values with
  | nil => exact ⟨[], rfl, List.eq_nil_of_length_eq_zero length⟩
  | cons name names ih =>
    cases values with
    | nil => cases length
    | cons v values =>
      obtain ⟨w, rfl⟩ := single 0 name v rfl rfl
      obtain ⟨entries, rfl, rfl⟩ := ih (Nat.succ.inj length) fun i => single (i + 1)
      exact ⟨(name, w) :: entries, rfl, rfl⟩

/-- Merging objects of one key each is writing entries. -/
theorem mergeAll_singles (output : Table Value) (entries : List (String × Value)) :
    mergeAll output (entries.map fun e => .single e.1 e.2) = Table.merge output entries :=
  List.foldl_map

/-- A round of calls, side by side, with what they give merged into an output. -/
def round (r : Registry) (scope : Scope) (cs : List Placed) (output : Table Value)
    (next : Table Value → Work) : Work :=
  batch (cs.any fun c => c.2.isCompose) (cs.map (resolveAt r scope)) output next

/-- The children of a call, resolved. -/
def resolveBelow (r : Registry) (ns : List Node) (scope : Scope) (path : Path) : Work :=
  select (composesAmong ns) (calls r ns scope path 0) (blocks r ns scope path 0)

theorem any_placed (path : Path) (ns : List Node) (p : Node → Bool) :
    ((placed path ns).any fun c => p c.2) = ns.any p := by
  conv => rhs; rw [← map_snd_placed path ns, List.any_map]
  rfl

/-- **The children of a call**: a round of its real children, and a round of those in the blocks that
hold. -/
theorem resolveBelow_eq (r : Registry) (ns : List Node) (scope : Scope) (path : Path) :
    resolveBelow r ns scope path = round r scope (real path ns) [] fun output =>
      match holding output (conditional path ns) with
      | .error f => .fail (.conditions f)
      | .ok bs => round r scope (bs.flatMap inside) output fun output => .succeed (.object output) := by
  have composes : composesAmong ns = (real path ns).any fun c => c.2.isCompose := by
    rw [real, List.any_filter, composesAmong, ← any_placed path ns]
  have composesInside (bs : List Placed) :
      ((bs.map (blockAt r scope)).any fun b => b.composes) =
        (bs.flatMap inside).any fun c => c.2.isCompose := by
    rw [List.any_map, List.any_flatMap]
    refine congrArg bs.any (funext ?_)
    intro c
    exact (any_placed c.1 c.2.children Node.isCompose).symm
  have callsInside (bs : List Placed) :
      ((bs.map (blockAt r scope)).flatMap fun b => b.calls) =
        (bs.flatMap inside).map (resolveAt r scope) := by
    rw [List.flatMap_map, List.map_flatMap]
    rfl
  -- Both sides are a round of the real children; what differs is how they go on with its output.
  rw [resolveBelow, select, round, calls_eq, blocks_eq, composes]
  congr
  funext output
  rw [conditional, placed, admitted_map]
  cases holding output ((placedFrom path 0 ns).filter fun c => c.2.isWhen) with
  | error f => rfl
  | ok bs =>
    simp only [Except.map]
    rw [composesInside, callsInside, round]

/-! ## Calls -/

theorem resolve_compose (r : Registry) (args : Option (Table Value)) (children : List Node)
    (scope : Scope) (path : Path) :
    resolve r (.mk Node.composeName args children) scope path =
      .gatherAll ((placed path children).map (resolveAt r scope)) fun results =>
        .succeed (.list results) := by
  rw [resolve, if_pos rfl, resolveAll_eq, placed]

theorem resolve_when (r : Registry) (args : Option (Table Value)) (children : List Node)
    (scope : Scope) (path : Path) :
    resolve r (.mk Node.whenName args children) scope path = .fail (.shape .whenOutside) := by
  rw [resolve, if_neg (by decide), if_pos rfl]

theorem resolve_field (r : Registry) {name : String} (args : Option (Table Value))
    (children : List Node) (scope : Scope) (path : Path) (compose : name ≠ Node.composeName)
    (when : name ≠ Node.whenName) :
    resolve r (.mk name args children) scope path =
      callField r name args (!children.isEmpty) scope path (resolveBelow r children) := by
  rw [resolve, if_neg compose, if_neg when]
  rfl

end Resolution

end CallTree
