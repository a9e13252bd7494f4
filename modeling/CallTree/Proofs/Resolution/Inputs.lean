/-
# CallTree.Proofs.Resolution.Inputs — what the resolvers of a call tree are given.

Every call that an unfolded tree asks for names a field of which the type is declared
(`Registry.Declares`), and its arguments fit the contract of that field (`Registry.Admits`). Its value
is that at the top, or it has an origin: a call that it comes after has returned it for a field of its
type, or a list that it is an item of, and that result has passed its check (`Registry.Supplies`). The
induction over the tree is `given_unfold`.
-/
import CallTree.Proofs.Resolution.Unfolding

namespace CallTree

/-- A value that a result of a type holds for the children: the result itself, or for an array type one
of its items; null counts as none. -/
def Descriptor.Holds (d : Descriptor) (result value : Value) : Prop :=
  value ≠ .null ∧
    if d.isArray then ∃ items, result = .list items ∧ value ∈ items else value = result

namespace Registry

variable (r : Registry)

/-- **A call with arguments that fit** the contract of its field. -/
def Admits (c : Call) : Prop :=
  ∃ f, r.field? c.owner c.field = some f ∧ Check.Fits f.expect c.args

/-- **A field of which the type is declared**, if it is a custom type. -/
def Declares (owner name : String) : Prop :=
  ∀ f, r.field? owner name = some f → f.type.isNative = false → r.hasType f.type.name = true

/-- **What a call supplies**: its field is of that custom type, the result has passed its check, and the
value is one that it holds. -/
def Supplies (p : Call) (result : Value) (owner : String) (value : Value) : Prop :=
  ∃ g, r.field? p.owner p.field = some g ∧ g.type.isNative = false ∧ g.type.name = owner ∧
    Check.customResult g.type true result = .ok () ∧ g.type.Holds result value

end Registry

namespace Unfolding

open Resolution

variable (r : Registry) (told : Path → Option (Except Failure Value))

/-- What a planned call is given, in a tree that is unfolded on a value of a type: that value, or one
that a call supplies which it comes after. -/
structure Given (owner : String) (data : Value) (c : Planned) : Prop where
  admits : r.Admits c.call
  declared : r.Declares c.call.owner c.call.field
  value : c.call.owner = owner ∧ c.call.data = data ∨ r.hasType c.call.owner = true ∧
    ∃ p ∈ c.after, ∃ v, told p.path = some (.ok v) ∧ r.Supplies p v c.call.owner c.call.data

variable {r told}

/-- What a call comes after besides does not matter. -/
theorem Given.behind {owner : String} {data : Value} {c : Planned} (h : Given r told owner data c)
    (earlier : List Call) : Given r told owner data (c.behind earlier) := by
  refine ⟨h.admits, h.declared, h.value.imp_right ?_⟩
  rintro ⟨declared, p, mem, supplies⟩
  exact ⟨declared, p, List.mem_append_right _ mem, supplies⟩

/-- A call before its checks: the arguments fit, and a custom type is declared. -/
theorem checkCall_inv {name : String} {args : Option (Table Value)} {f : Field}
    (passed : checkCall r name args f = .ok ()) :
    Check.Fits f.expect (args.getD []) ∧ (f.type.isNative = false → r.hasType f.type.name = true) := by
  unfold checkCall at passed
  split at passed
  · cases passed
  · rename_i fits
    refine ⟨Check.arguments_eq_ok_iff.1 fits, fun custom => ?_⟩
    rw [custom, if_neg Bool.false_ne_true, Check.declared] at passed
    split at passed
    · assumption
    · cases passed

/-- A property of all planned calls of a round, and of what comes after it. -/
theorem forall_round {P : Planned → Prop} {composes : Bool} {calls : List (Plan Value)}
    {output : Table Value} {k : Table Value → Plan Value}
    (children : ∀ p ∈ calls, ∀ c ∈ p.calls, P c) (goesOn : ∀ output, ∀ c ∈ (k output).calls, P c)
    (stays : ∀ c earlier, P c → P (c.behind earlier)) :
    ∀ c ∈ ((round composes calls output).andThen k).calls, P c := by
  unfold round
  split
  · exact nofun
  · rw [Plan.andThen_succeed]
    exact Plan.forall_andThen (Plan.forall_each children)
      fun results c mem => stays c _ (goesOn _ c mem)

/-- A property of all planned calls below a result that has passed its check. -/
theorem forall_complete {P : Planned → Prop} {name : String} {type : Descriptor}
    {hasChildren : Bool} {path : Path} {children : String → Value → Path → Plan Value} {v : Value}
    (below : type.isNative = false → Check.customResult type true v = .ok () → ∀ value path,
      type.Holds v value → ∀ c ∈ (children type.name value path).calls, P c) :
    ∀ c ∈ (complete name type hasChildren path children v).calls, P c := by
  unfold complete
  split
  · split <;> exact nofun
  · rename_i custom
    split
    · exact nofun
    · rename_i passed
      obtain ⟨rfl, results⟩ := Check.customResult_eq_ok_iff.1 passed
      have here := below (Bool.eq_false_iff.2 custom) passed
      refine Plan.forall_andThen ?_ fun w => nofun
      unfold descend
      split
      · exact nofun
      · rename_i present
        have notNull : v ≠ .null := mt v.isNull_iff.2 present
        by_cases array : type.isArray = true
        · rw [if_pos array]
          obtain ⟨items, rfl⟩ : ∃ items, v = .list items := by
            rcases results with ⟨null, -⟩ | ⟨-, lists⟩
            · exact absurd null notNull
            · exact (lists array).imp fun _ => And.left
          refine Plan.forall_andThen (Plan.forall_each ?_) fun w => nofun
          intro p mem
          obtain ⟨i, bound, rfl⟩ := List.mem_mapIdx.1 mem
          split
          · exact nofun
          · rename_i item
            refine here _ _ ⟨mt (Value.isNull_iff _).2 item, ?_⟩
            rw [if_pos array]
            exact ⟨items, rfl, List.getElem_mem bound⟩
        · rw [if_neg array]
          refine here v path ⟨notNull, ?_⟩
          rw [if_neg array]

/-- What the calls are given that the children of a call ask for. -/
theorem given_unfoldBelow {ns : List Node} {owner : String} {data : Value}
    (children : ∀ n ∈ ns, ∀ path, ∀ c ∈ (unfold r told n owner data path).calls,
      Given r told owner data c)
    (inBlocks : ∀ b ∈ ns, ∀ n ∈ b.children, ∀ path, ∀ c ∈ (unfold r told n owner data path).calls,
      Given r told owner data c) (path : Path) :
    ∀ c ∈ (unfoldBelow r told ns owner data path).calls, Given r told owner data c := by
  have stays (c : Planned) (earlier : List Call) (given : Given r told owner data c) :
      Given r told owner data (c.behind earlier) := given.behind earlier
  refine forall_round ?_ (fun output => ?_) stays
  · intro p mem
    obtain ⟨d, hd, rfl⟩ := List.mem_map.1 mem
    exact children d.2 (mem_of_real hd) d.1
  · split
    · exact nofun
    · rename_i bs holds
      refine forall_round ?_ (fun output => nofun) stays
      intro p mem
      obtain ⟨d, hd, rfl⟩ := List.mem_map.1 mem
      obtain ⟨b, hb, inside⟩ := mem_of_inside holds hd
      exact inBlocks b hb d.2 inside d.1

/-- What is given below a call that has returned a value: what that call supplies, or one further
below. -/
theorem Given.above {call : Call} {f : Field} {v value data : Value} {owner : String}
    {c : Planned} (given : Given r told f.type.name value c)
    (found : r.field? call.owner call.field = some f) (known : told call.path = some (.ok v))
    (custom : f.type.isNative = false) (declared : r.hasType f.type.name = true)
    (checked : Check.customResult f.type true v = .ok ()) (holds : f.type.Holds v value) :
    Given r told owner data (c.behind [call]) := by
  refine ⟨given.admits, given.declared, .inr ?_⟩
  rcases given.value with ⟨sameOwner, sameData⟩ | ⟨typed, p, before, supplies⟩
  · have typed : r.hasType c.call.owner = true := by
      rw [sameOwner]
      exact declared
    rw [← sameData] at holds
    exact ⟨typed, call, List.mem_cons_self, v, known, f, found, custom, sameOwner.symm, checked, holds⟩
  · exact ⟨typed, p, List.mem_append_right _ before, supplies⟩

/-- **What every call of an unfolded tree is given.** -/
theorem given_unfold (n : Node) : ∀ (owner : String) (data : Value) (path : Path),
    ∀ c ∈ (unfold r told n owner data path).calls, Given r told owner data c := by
  induction n using Node.induct with
  | compose args children ih =>
    intro owner data path
    rw [unfold_compose]
    refine Plan.forall_andThen (Plan.forall_each ?_) fun results => nofun
    intro p mem
    obtain ⟨c, hc, rfl⟩ := List.mem_map.1 mem
    exact ih c.2 (mem_of_placed hc) owner data c.1
  | when args children =>
    intro owner data path
    rw [unfold_when]
    exact nofun
  | field name args children noCompose noWhen ih ihBlocks =>
    intro owner data path
    rw [unfold_field r told args children owner data path noCompose noWhen, callField]
    split
    · exact nofun
    · rename_i f found
      split
      · exact nofun
      · rename_i passed
        obtain ⟨fits, declared⟩ := checkCall_inv passed
        refine Plan.forall_andThen ?_ fun _ => ?_
        · intro c mem
          rw [List.mem_singleton.1 mem]
          refine ⟨⟨f, found, fits⟩, fun g found' custom => ?_, .inl ⟨rfl, rfl⟩⟩
          cases found.symm.trans found'
          exact declared custom
        · split
          · exact nofun
          · exact nofun
          · rename_i v known
            -- A call below is given what this call supplies, or what one further below does.
            refine forall_complete fun custom checked value path holds c mem => ?_
            have given : Given r told f.type.name value c :=
              given_unfoldBelow (fun n hn => ih n hn _ value)
                (fun b hb n hn => ihBlocks b hb n hn _ value) path c mem
            exact given.above found known custom (declared custom) checked holds

end Unfolding

end CallTree
