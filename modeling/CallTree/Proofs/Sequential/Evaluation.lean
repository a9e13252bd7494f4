/-
# CallTree.Proofs.Sequential.Evaluation — call trees evaluated one call after the other.

A plain recursive reading of call trees, without tasks and without a machine: the calls of a
composition and the items of a list from left to right; of a call's children first the real ones, then
those in the conditional blocks that hold. What resolvers come to is given (`Answers`).

A verdict is a result with the history of the calls on the way, or it tells of faults. `Blame` says
what is told where several calls stand side by side: the first fault, as an evaluation does that stops
there (`Blame.first`), or all of them, as if each call were evaluated by itself (`Blame.all`).
-/
import CallTree.Proofs.Resolution.Scripts

namespace CallTree

namespace Sequential

open Resolution

/-- How faults are told: a single one, and those of two calls side by side. -/
structure Blame (ε : Type) where
  fault : Abort → ε
  both : ε → ε → ε

/-- The first fault. -/
def Blame.first : Blame Abort := ⟨id, fun e _ => e⟩

/-- All faults. -/
def Blame.all : Blame (List Abort) := ⟨fun e => [e], fun es es' => es ++ es'⟩

/-- **`Verdict ε α`** — a result with the history of the calls on the way, or faults. -/
abbrev Verdict (ε α : Type) := Except ε (α × List Journal.Event)

namespace Verdict

variable {ε α β : Type}

/-- A result without a call. -/
def succeed (a : α) : Verdict ε α := .ok (a, [])

/-- Go on with a result. -/
def andThen (v : Verdict ε α) (k : α → Verdict ε β) : Verdict ε β :=
  match v with
  | .error e => .error e
  | .ok (a, log) =>
    match k a with
    | .error e => .error e
    | .ok (b, more) => .ok (b, log ++ more)

/-- A result that is only rearranged. -/
theorem andThen_succeed {γ : Type} (v : Verdict ε α) (f : α → β) (k : β → Verdict ε γ) :
    (v.andThen fun a => succeed (f a)).andThen k = v.andThen fun a => k (f a) := by
  rcases v with e | ⟨a, log⟩
  · rfl
  · simp only [andThen, succeed, List.append_nil]

end Verdict

section

variable {ε α : Type} (b : Blame ε)

/-- A single fault. -/
def blame (e : Abort) : Verdict ε α := .error (b.fault e)

/-- The verdict on calls that stand side by side. -/
def each : List (Verdict ε α) → Verdict ε (List α)
  | [] => .succeed []
  | .ok (a, log) :: rest =>
    match each rest with
    | .ok (as, more) => .ok (a :: as, log ++ more)
    | .error e => .error e
  | .error e :: rest =>
    match each rest with
    | .ok _ => .error e
    | .error e' => .error (b.both e e')

/-- A round of calls, with what they give merged into an output. -/
def round (composes : Bool) (calls : List (Verdict ε Value)) (output : Table Value) :
    Verdict ε (Table Value) :=
  if composes then blame b (.shape .composeInside)
  else (each b calls).andThen fun results => .succeed (mergeAll output results)

/-- The children of a call on what its resolver returned. -/
def descend (type : Descriptor) (path : Path) (children : String → Value → Path → Verdict ε Value)
    (v : Value) : Verdict ε Value :=
  if v.isNull then .succeed .null
  else if type.isArray then
    (each b ((v.items?.getD []).mapIdx fun i item =>
      if item.isNull then .succeed .null else children type.name item (path ++ [(i : Int)]))).andThen
        fun results => .succeed (.list results)
  else children type.name v path

/-- Check what a resolver returned, and evaluate the children on it. -/
def complete (name : String) (type : Descriptor) (hasChildren : Bool) (path : Path)
    (children : String → Value → Path → Verdict ε Value) (v : Value) : Verdict ε Value :=
  if type.isNative then
    match Check.nativeResult type hasChildren v with
    | .error f => blame b (.result name f)
    | .ok () => .succeed (.single name v)
  else
    match Check.customResult type hasChildren v with
    | .error f => blame b (.result name f)
    | .ok () => (descend b type path children v).andThen fun w => .succeed (.single name w)

variable (r : Registry) (answers : Answers)

/-- The history of a call by itself. -/
def record (call : Call) (outcome : Except Failure Value) : List Journal.Event :=
  [.started call, .ended call outcome]

/-- Call a field of a type on a value. -/
def callField (name : String) (args : Option (Table Value)) (hasChildren : Bool) (owner : String)
    (data : Value) (path : Path) (children : String → Value → Path → Verdict ε Value) :
    Verdict ε Value :=
  match r.field? owner name with
  | none => blame b (.shape (.unknownName name))
  | some f =>
    match checkCall r name args f with
    | .error e => blame b e
    | .ok () =>
      let call : Call := ⟨owner, name, path, args.getD [], data⟩
      match answers owner name call.args data with
      | .error failure => .ok (.single name .null, record call (.error failure))
      | .ok v =>
        Verdict.andThen (.ok ((), record call (.ok v))) fun () =>
          complete b name f.type hasChildren path children v

/-- **Evaluate** a call on a value of a type. -/
def evaluate (n : Node) (owner : String) (data : Value) (path : Path) : Verdict ε Value :=
  match n with
  | .mk name args children =>
    if name = Node.composeName then
      (each b ((placed path children).attach.map fun c => evaluate c.1.2 owner data c.1.1)).andThen
        fun results => .succeed (.list results)
    else if name = Node.whenName then blame b (.shape .whenOutside)
    else
      callField b r answers name args (!children.isEmpty) owner data path fun type v path =>
        (round b ((real path children).any fun c => c.2.isCompose)
          ((real path children).attach.map fun c => evaluate c.1.2 type v c.1.1) []).andThen
            fun output =>
              match _holds : holding output (conditional path children) with
              | .error f => blame b (.conditions f)
              | .ok bs =>
                (round b ((bs.flatMap inside).any fun c => c.2.isCompose)
                  ((bs.flatMap inside).attach.map fun c => evaluate c.1.2 type v c.1.1)
                  output).andThen fun output => .succeed (.object output)
termination_by sizeOf n
decreasing_by
  -- The children, the real ones among them, and the calls in the blocks that hold.
  · exact sizeOf_child_lt (mem_of_placed c.2)
  · exact sizeOf_child_lt (mem_of_real c.2)
  · obtain ⟨b, mem, mem'⟩ := mem_of_inside _holds c.2
    exact sizeOf_grandchild_lt mem mem'

/-- A call at its position, evaluated. -/
def evaluateAt (owner : String) (data : Value) (c : Placed) : Verdict ε Value :=
  evaluate b r answers c.2 owner data c.1

/-- The children of a call, evaluated on a value of a type: a round of the real ones, and a round of
those in the blocks that hold. -/
def evaluateBelow (ns : List Node) (type : String) (v : Value) (path : Path) : Verdict ε Value :=
  (round b ((real path ns).any fun c => c.2.isCompose)
    ((real path ns).map (evaluateAt b r answers type v)) []).andThen fun output =>
      match holding output (conditional path ns) with
      | .error f => blame b (.conditions f)
      | .ok bs =>
        (round b ((bs.flatMap inside).any fun c => c.2.isCompose)
          ((bs.flatMap inside).map (evaluateAt b r answers type v)) output).andThen
            fun output => .succeed (.object output)

theorem evaluate_compose (args : Option (Table Value)) (children : List Node) (owner : String)
    (data : Value) (path : Path) :
    evaluate b r answers (.mk Node.composeName args children) owner data path =
      (each b ((placed path children).map (evaluateAt b r answers owner data))).andThen
        fun results => .succeed (.list results) := by
  have calls := List.attach_map_val (l := placed path children)
    (f := evaluateAt b r answers owner data)
  rw [evaluate, if_pos rfl, ← calls]
  rfl

theorem evaluate_when (args : Option (Table Value)) (children : List Node) (owner : String)
    (data : Value) (path : Path) :
    evaluate b r answers (.mk Node.whenName args children) owner data path =
      blame b (.shape .whenOutside) := by
  rw [evaluate, if_neg (by decide), if_pos rfl]

theorem evaluate_field {name : String} (args : Option (Table Value)) (children : List Node)
    (owner : String) (data : Value) (path : Path) (compose : name ≠ Node.composeName)
    (when : name ≠ Node.whenName) :
    evaluate b r answers (.mk name args children) owner data path =
      callField b r answers name args (!children.isEmpty) owner data path
        (evaluateBelow b r answers children) := by
  rw [evaluate, if_neg compose, if_neg when]
  congr
  funext type v path
  have calls (cs : List Placed) := List.attach_map_val (l := cs) (f := evaluateAt b r answers type v)
  rw [evaluateBelow, ← calls (real path children)]
  congr
  funext output
  split
  · rename_i f holds
    rw [holds]
  · rename_i bs holds
    rw [holds]
    simp only
    rw [← calls (bs.flatMap inside)]
    rfl

end

end Sequential

end CallTree
