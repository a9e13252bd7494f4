/-
# CallTree.Proofs.Check — what it means that arguments and results pass their checks.

`Descriptor.Accepts` says which values are of a declared native type, by their kinds alone. The checks
of results pass exactly on those values, and on null where null is allowed (`nativeResult_eq_ok_iff`,
`customResult_eq_ok_iff`). Arguments pass if there are exactly those that the contract names, each with
a value of its type (`arguments_eq_ok_iff`).
-/
import CallTree.Check
import CallTree.Proofs.Table

namespace CallTree

/-- The kinds of the values of a native type. -/
def Native.kinds : Native → List Value.Kind
  | .object => [.object]
  | .text => [.text]
  | .number => [.int, .float]
  | .boolean => [.bool]

theorem Native.accepts_iff (n : Native) (v : Value) : n.accepts v = true ↔ v.kind ∈ n.kinds := by
  cases n <;> cases v <;> simp [accepts, kinds, Value.kind]

theorem Value.isNull_iff (v : Value) : v.isNull = true ↔ v = .null := by
  cases v <;> simp [isNull]

namespace Descriptor

/-- A value of exactly one of the kinds that the name of the type stands for. -/
def Names (d : Descriptor) (v : Value) : Prop :=
  ∃ n, Native.ofName? d.name = some n ∧ v.kind ∈ n.kinds

/-- **A value of a native type**, other than null. Among the items of a list there may be nulls,
unless the type is required. -/
inductive Accepts (d : Descriptor) : Value → Prop where
  | single {v : Value} (one : d.isArray = false) (named : d.Names v) : Accepts d v
  | list {items : List Value} (array : d.isArray = true)
      (each : ∀ item ∈ items, item = .null ∧ d.isRequired = false ∨ d.Names item) :
      Accepts d (.list items)

theorem accepts_iff_of_single {d : Descriptor} (one : d.isArray = false) (v : Value) :
    d.Accepts v ↔ d.Names v := by
  refine ⟨?_, .single one⟩
  intro h
  cases h with
  | single _ named => exact named
  | list array _ => rw [one] at array; cases array

theorem accepts_iff_of_array {d : Descriptor} (array : d.isArray = true) (v : Value) :
    d.Accepts v ↔
      ∃ items, v = .list items ∧
        ∀ item ∈ items, item = .null ∧ d.isRequired = false ∨ d.Names item := by
  constructor
  · intro h
    cases h with
    | single one _ => rw [array] at one; cases one
    | list _ each => exact ⟨_, rfl, each⟩
  · rintro ⟨items, rfl, each⟩
    exact .list array each

/-- Null is of no native type. -/
theorem Accepts.ne_null {d : Descriptor} {v : Value} (h : d.Accepts v) : v ≠ .null := by
  rintro rfl
  cases h with
  | single _ named =>
    obtain ⟨n, -, mem⟩ := named
    cases n <;> simp [Native.kinds, Value.kind] at mem

theorem acceptsNamed_iff (d : Descriptor) (v : Value) :
    acceptsNamed d.name v = true ↔ d.Names v := by
  unfold acceptsNamed Names
  cases Native.ofName? d.name with
  | none => simp
  | some n => simp [Native.accepts_iff]

theorem itemConforms_iff (d : Descriptor) (v : Value) :
    Check.itemConforms d v = true ↔ v = .null ∧ d.isRequired = false ∨ d.Names v := by
  rw [Check.itemConforms, Bool.or_eq_true, Bool.and_eq_true, acceptsNamed_iff, Value.isNull_iff,
    Bool.not_eq_true']

end Descriptor

namespace Check

/-- A condition that is checked and nothing else. -/
theorem ite_eq_ok_iff {ε : Type} {p : Prop} [Decidable p] {e : ε} :
    (if p then .ok () else .error e : Except ε Unit) = .ok () ↔ p := by
  split <;> simp [*]

theorem ite_eq_ok_iff_not {ε : Type} {p : Prop} [Decidable p] {e : ε} :
    (if p then .error e else .ok () : Except ε Unit) = .ok () ↔ ¬ p := by
  split <;> simp [*]

/-- A value against a native type: null, then the items of a list, then the kind. It passes on the
values of the type, and on null where that is allowed, whatever is reported otherwise. -/
theorem conforms_eq_ok_iff {ε : Type} {d : Descriptor} {v : Value} {null item noArray kind : ε} :
    (if v.isNull then (if d.isRequired then .error null else .ok ())
      else if d.isArray then
        match v with
        | .list xs => if xs.all (itemConforms d) then .ok () else .error item
        | _ => .error noArray
      else if acceptsNamed d.name v then .ok ()
      else .error kind : Except ε Unit) = .ok () ↔
      v = .null ∧ d.isRequired = false ∨ d.Accepts v := by
  by_cases isNull : v = .null
  · subst isNull
    have none : ¬ d.Accepts .null := fun h => h.ne_null rfl
    rw [if_pos (Value.isNull_iff _ |>.2 rfl), ite_eq_ok_iff_not, Bool.not_eq_true]
    simp only [none, true_and, or_false]
  · rw [if_neg (mt v.isNull_iff.1 isNull)]
    simp only [isNull, false_and, false_or]
    by_cases array : d.isArray = true
    · rw [if_pos array, Descriptor.accepts_iff_of_array array]
      split
      · rw [ite_eq_ok_iff, List.all_eq_true]
        simp only [Descriptor.itemConforms_iff, Value.list.injEq, exists_eq_left']
      · rename_i noList
        simpa using fun items same => absurd same (noList items)
    · rw [if_neg array, ite_eq_ok_iff, Descriptor.acceptsNamed_iff,
        Descriptor.accepts_iff_of_single (Bool.eq_false_iff.2 array)]

/-- **The check of an argument** passes on the values of its type, and on null where that is allowed. -/
theorem argument_eq_ok_iff {arg : String} {d : Descriptor} {v : Value} :
    argument arg d v = .ok () ↔ v = .null ∧ d.isRequired = false ∨ d.Accepts v :=
  conforms_eq_ok_iff

/-- **The check of a native result** passes on the values of the type, and on null where that is
allowed; there are no children then. -/
theorem nativeResult_eq_ok_iff {d : Descriptor} {children : Bool} {v : Value} :
    nativeResult d children v = .ok () ↔
      children = false ∧ (v = .null ∧ d.isRequired = false ∨ d.Accepts v) := by
  unfold nativeResult
  cases children with
  | true => simp
  | false =>
    rw [if_neg Bool.false_ne_true, eq_self, true_and]
    exact conforms_eq_ok_iff

/-- **The check of a custom result** passes on null where that is allowed, and for an array type
otherwise on lists only, without nulls if the type is required. -/
theorem customResult_eq_ok_iff {d : Descriptor} {children : Bool} {v : Value} :
    customResult d children v = .ok () ↔
      children = true ∧ (v = .null ∧ d.isRequired = false ∨
        v ≠ .null ∧ (d.isArray = true →
          ∃ items, v = .list items ∧ (d.isRequired = true → .null ∉ items))) := by
  unfold customResult
  cases children with
  | false => simp
  | true =>
    rw [Bool.not_true, if_neg Bool.false_ne_true, eq_self, true_and]
    by_cases null : v = .null
    · subst null
      rw [if_pos (Value.isNull_iff _ |>.2 rfl), ite_eq_ok_iff_not, Bool.not_eq_true]
      simp
    · rw [if_neg (mt v.isNull_iff.1 null)]
      by_cases array : d.isArray = true
      · rw [if_pos array]
        simp only [null, false_and, false_or, ne_eq, not_false_eq_true, true_and, array, true_implies]
        split
        · rename_i items
          have nulls : items.any Value.isNull = true ↔ .null ∈ items := by
            simp [Value.isNull_iff]
          rw [ite_eq_ok_iff_not, Bool.and_eq_true, nulls]
          simp
        · rename_i noList
          simpa using fun items same => absurd same (noList items)
      · rw [if_neg array]
        simp [null, array]

/-! ## Arguments -/

/-- The check of a result does not ask whether its type is declared. -/
theorem nativeResult_ne_undefinedType {d : Descriptor} {children : Bool} {v : Value} {name : String} :
    nativeResult d children v ≠ .error (.undefinedType name) := by
  unfold nativeResult
  repeat' split
  all_goals nofun

theorem customResult_ne_undefinedType {d : Descriptor} {children : Bool} {v : Value} {name : String} :
    customResult d children v ≠ .error (.undefinedType name) := by
  unfold customResult
  repeat' split
  all_goals nofun

theorem contracted_eq_ok_iff {given : Table Value} {contract : Contract} :
    contracted given contract = .ok () ↔
      ∀ arg d, (arg, d) ∈ contract →
        ∃ v, given.get? arg = some v ∧ (v = .null ∧ d.isRequired = false ∨ d.Accepts v) := by
  induction contract with
  | nil => simp [contracted]
  | cons e rest ih =>
    obtain ⟨arg, d⟩ := e
    have here : contracted given ((arg, d) :: rest) = .ok () ↔
        (∃ v, given.get? arg = some v ∧ argument arg d v = .ok ()) ∧
          contracted given rest = .ok () := by
      rw [contracted]
      cases given.get? arg with
      | none => simp
      | some v => cases check : argument arg d v <;> simp [check]
    rw [here, ih]
    simp only [argument_eq_ok_iff, List.mem_cons, Prod.mk.injEq]
    constructor
    · rintro ⟨first, others⟩ arg' d' (⟨rfl, rfl⟩ | later)
      · exact first
      · exact others arg' d' later
    · exact fun all => ⟨all arg d (.inl ⟨rfl, rfl⟩), fun arg' d' later => all arg' d' (.inr later)⟩

theorem knownNames_eq_ok_iff {contract : Contract} {given : Table Value} :
    knownNames contract given = .ok () ↔ ∀ arg ∈ given.keys, arg ∈ contract.keys := by
  induction given with
  | nil => simp [knownNames, Table.keys]
  | cons e rest ih =>
    obtain ⟨arg, v⟩ := e
    have keys : Table.keys ((arg, v) :: rest) = arg :: Table.keys rest := rfl
    rw [knownNames, keys, List.forall_mem_cons, ← ih, ← Table.has_iff]
    cases contract.has arg <;> simp

/-- **Arguments that fit a contract**: exactly the names of the contract, each with a value of its type,
or null where that is allowed. -/
structure Fits (contract : Contract) (args : Table Value) : Prop where
  names : ∀ arg, arg ∈ args.keys ↔ arg ∈ contract.keys
  values : ∀ arg d v, (arg, d) ∈ contract → args.get? arg = some v →
    v = .null ∧ d.isRequired = false ∨ d.Accepts v

theorem fits_iff {contract : Contract} {args : Table Value} :
    Fits contract args ↔ (∀ arg ∈ args.keys, arg ∈ contract.keys) ∧
      ∀ arg d, (arg, d) ∈ contract →
        ∃ v, args.get? arg = some v ∧ (v = .null ∧ d.isRequired = false ∨ d.Accepts v) := by
  have present (arg : String) : arg ∈ args.keys ↔ ∃ v, args.get? arg = some v := by
    rw [← Table.has_iff, Table.has, Option.isSome_iff_exists]
  constructor
  · rintro ⟨names, values⟩
    refine ⟨fun arg => (names arg).1, ?_⟩
    intro arg d mem
    obtain ⟨v, here⟩ := (present arg).1 ((names arg).2 (List.mem_map_of_mem mem))
    exact ⟨v, here, values arg d v mem here⟩
  · rintro ⟨known, given⟩
    refine ⟨fun arg => ⟨known arg, ?_⟩, ?_⟩
    · intro named
      obtain ⟨⟨_, d⟩, mem, rfl⟩ := List.mem_map.1 named
      obtain ⟨v, here, -⟩ := given _ d mem
      exact (present _).2 ⟨v, here⟩
    · intro arg d v mem here
      obtain ⟨w, same, conforms⟩ := given arg d mem
      rw [here, Option.some.injEq] at same
      exact same ▸ conforms

/-- What is given for arguments is refused in a call for the same reason. -/
theorem arguments_eq_error_iff {call : String} {args : Value} {contract : Contract} {e : Refusal} :
    arguments call args contract = .error e ↔ e.call = call ∧ fit args contract = .error e.fault := by
  unfold arguments
  cases fit args contract with
  | ok _ => exact iff_of_false nofun nofun
  | error f =>
    simp only [Except.mapError, Except.error.injEq]
    constructor
    · rintro rfl
      exact ⟨rfl, rfl⟩
    · rintro ⟨rfl, rfl⟩
      rfl

/-- **The check of arguments** passes on those that fit, and on none at all where nothing is expected. -/
theorem arguments_eq_ok_iff {call : String} {contract : Contract} {args : Option (Table Value)} :
    arguments call ((args.map .object).getD .null) contract = .ok () ↔ Fits contract (args.getD []) := by
  have same {args : Value} : arguments call args contract = .ok () ↔ fit args contract = .ok () := by
    unfold arguments
    cases fit args contract with
    | ok _ => exact iff_of_true rfl rfl
    | error f => exact iff_of_false nofun nofun
  rw [same]
  unfold fit
  rw [fits_iff]
  cases contract with
  | nil =>
    have none : ((args.map Value.object).getD .null).truthy = false ↔ args.getD [] = [] := by
      cases args <;> simp [Value.truthy]
    rw [List.isEmpty_nil, if_pos rfl, ite_eq_ok_iff_not, Bool.not_eq_true, none]
    simp [Table.keys, List.eq_nil_iff_forall_not_mem]
  | cons e rest =>
    rw [List.isEmpty_cons, if_neg Bool.false_ne_true]
    cases args with
    | none =>
      refine iff_of_false (fun accepted => by cases accepted) ?_
      rintro ⟨-, given⟩
      obtain ⟨v, here, -⟩ := given e.1 e.2 List.mem_cons_self
      cases here
    | some fs =>
      simp only [Option.map_some, Option.getD_some]
      rw [← knownNames_eq_ok_iff, ← contracted_eq_ok_iff]
      cases known : knownNames (e :: rest) fs <;> simp

end Check

end CallTree
