/-
# CallTree.Proofs.Check.Blame — which arguments are refused, and which of them is blamed.

A check that goes through entries one after the other reports the fault of the first entry that has one
(`Check.walk_eq_error_iff`). Arguments are checked by two such walks: over themselves, for names that
the contract lacks, and over the contract, for what is missing or does not conform. So the argument to
blame can be told without a word on walks (`Check.Blamed`), and which arguments are accepted does not
depend on any order (`Check.arguments_exact`).
-/
import CallTree.Proofs.Check

namespace CallTree

/-! ## Sentences -/

/-- A sentence that says, in quotes, which field is called. -/
def NamesCall (call s : String) : Prop :=
  ∃ before after, s.toList = before ++ ("field \"".toList ++ call.toList ++ "\"".toList) ++ after

theorem NamesCall.append {call s : String} (h : NamesCall call s) (t : String) :
    NamesCall call (s ++ t) := by
  obtain ⟨before, after, parts⟩ := h
  refine ⟨before, after ++ t.toList, ?_⟩
  rw [String.toList_append, parts, List.append_assoc]

/-- A text that ends in the word for a field and an open quote. -/
def OpensField (s : String) : Prop := ∃ before, s.toList = before ++ "field \"".toList

theorem OpensField.prepend {t : String} (h : OpensField t) (s : String) : OpensField (s ++ t) := by
  obtain ⟨before, parts⟩ := h
  refine ⟨s.toList ++ before, ?_⟩
  rw [String.toList_append, parts, List.append_assoc]

theorem OpensField.names {s t : String} (h : OpensField s) (call : String)
    (closes : t.toList.head? = some '"') : NamesCall call (s ++ call ++ t) := by
  obtain ⟨before, parts⟩ := h
  obtain ⟨after, rest⟩ := List.head?_eq_some_iff.1 closes
  refine ⟨before, after, ?_⟩
  have quote : "\"".toList = ['"'] := by decide
  rw [String.toList_append, String.toList_append, parts, rest, quote]
  simp only [List.append_assoc, List.cons_append, List.nil_append]

/-- **The sentence of every fault says which field is called.** -/
theorem ArgumentFault.namesCall (call : String) (f : ArgumentFault) :
    NamesCall call (f.message call) := by
  have unexpected : OpensField "Unexpected arguments provided for field \"" :=
    ⟨"Unexpected arguments provided for ".toList, by decide⟩
  have given : OpensField "Arguments for field \"" := ⟨"Arguments for ".toList, by decide⟩
  have named : OpensField "\" for field \"" := ⟨"\" for ".toList, by decide⟩
  cases f with
  | unexpected => exact unexpected.names call (by decide)
  | missing => exact given.names call (by decide)
  | unexpectedName arg => exact (named.prepend _).names call (by decide)
  | missingName arg => exact (named.prepend _).names call (by decide)
  | null arg => exact (named.prepend _).names call (by decide)
  | noArray arg => exact (named.prepend _).names call (by decide)
  | item arg typeName => exact (((named.prepend _).names call (by decide)).append _).append _
  | kind arg typeName found =>
    exact (((((named.prepend _).names call (by decide)).append _).append _).append _).append _

namespace Check

/-! ## Walks over entries -/

section

variable {α : Type}

/-- **The first entry of a table that fails**, by its key: those before it pass. -/
def FirstFailing (Passes : String → α → Prop) (t : Table α) (key : String) : Prop :=
  ∃ before value after, t = before ++ (key, value) :: after ∧
    (∀ e ∈ before, Passes e.1 e.2) ∧ ¬ Passes key value

theorem not_firstFailing_nil (Passes : String → α → Prop) (key : String) :
    ¬ FirstFailing Passes [] key := by
  rintro ⟨before, value, after, parts, -⟩
  cases before <;> cases parts

/-- The first entry is at fault, or it passes and the first failing one is behind it. -/
theorem firstFailing_cons (Passes : String → α → Prop) (k : String) (v : α) (rest : Table α)
    (key : String) :
    FirstFailing Passes ((k, v) :: rest) key ↔
      ¬ Passes k v ∧ key = k ∨ Passes k v ∧ FirstFailing Passes rest key := by
  constructor
  · rintro ⟨before, value, after, parts, passed, fails⟩
    cases before with
    | nil =>
      cases parts
      exact .inl ⟨fails, rfl⟩
    | cons e before =>
      cases parts
      obtain ⟨first, others⟩ := List.forall_mem_cons.1 passed
      exact .inr ⟨first, before, value, after, rfl, others, fails⟩
  · rintro (⟨fails, rfl⟩ | ⟨first, before, value, after, rfl, passed, fails⟩)
    · exact ⟨[], v, rest, rfl, nofun, fails⟩
    · exact ⟨(k, v) :: before, value, after, rfl, List.forall_mem_cons.2 ⟨first, passed⟩, fails⟩

/-- There is at most one first failing entry. -/
theorem FirstFailing.unique {Passes : String → α → Prop} {t : Table α} {key key' : String}
    (first : FirstFailing Passes t key) (first' : FirstFailing Passes t key') : key' = key := by
  induction t with
  | nil => exact absurd first (not_firstFailing_nil Passes key)
  | cons e rest ih =>
    obtain ⟨k, v⟩ := e
    rw [firstFailing_cons] at first first'
    by_cases here : Passes k v
    · simp only [here, not_true_eq_false, false_and, true_and, false_or] at first first'
      exact ih first first'
    · simp only [here, not_false_eq_true, true_and, false_and, or_false] at first first'
      rw [first, first']

/-- **A walk blames the first entry that fails**, if it goes on behind an entry that passes and ends at
one that fails with a fault of its key. -/
theorem blames_first {Passes : String → α → Prop} {walk : Table α → Except ArgumentFault Unit}
    (done : walk [] = .ok ())
    (goesOn : ∀ k v rest, Passes k v → walk ((k, v) :: rest) = walk rest)
    (ends : ∀ k v rest, ¬ Passes k v → ∃ f, walk ((k, v) :: rest) = .error f ∧ f.arg? = some k)
    {t : Table α} {f : ArgumentFault} (fails : walk t = .error f) :
    ∃ key, f.arg? = some key ∧ FirstFailing Passes t key := by
  induction t with
  | nil =>
    rw [done] at fails
    cases fails
  | cons e rest ih =>
    obtain ⟨k, v⟩ := e
    by_cases here : Passes k v
    · rw [goesOn k v rest here] at fails
      obtain ⟨key, named, first⟩ := ih fails
      exact ⟨key, named, (firstFailing_cons Passes k v rest key).2 (.inr ⟨here, first⟩)⟩
    · obtain ⟨g, found, named⟩ := ends k v rest here
      cases found.symm.trans fails
      exact ⟨k, named, (firstFailing_cons Passes k v rest k).2 (.inl ⟨here, rfl⟩)⟩

end

/-- The walk over the arguments blames the first name that the contract lacks. -/
theorem knownNames_blames {contract : Contract} {args : Table Value} {f : ArgumentFault}
    (fails : knownNames contract args = .error f) :
    ∃ arg, f.arg? = some arg ∧ FirstFailing (fun name _ => name ∈ contract.keys) args arg := by
  refine blames_first rfl ?_ ?_ fails
  · intro k v rest known
    rw [knownNames, if_pos ((Table.has_iff _ _).2 known)]
  · intro k v rest unknown
    refine ⟨.unexpectedName k, ?_, rfl⟩
    rw [knownNames, if_neg (mt (Table.has_iff _ _).1 unknown)]

/-- **An argument is given**: there is a value under the name, of the type or null where that is
allowed. -/
def Given (args : Table Value) (arg : String) (d : Descriptor) : Prop :=
  ∃ v, args.get? arg = some v ∧ (v = .null ∧ d.isRequired = false ∨ d.Accepts v)

/-- A fault of a single argument names it. -/
theorem arg_of_argument {arg : String} {d : Descriptor} {v : Value} {f : ArgumentFault}
    (refused : argument arg d v = .error f) : f.arg? = some arg := by
  unfold argument at refused
  repeat' split at refused
  all_goals cases refused
  all_goals rfl

/-- The walk over the contract blames the first name that is missing or does not conform. -/
theorem contracted_blames {contract : Contract} {args : Table Value} {f : ArgumentFault}
    (fails : contracted args contract = .error f) :
    ∃ arg, f.arg? = some arg ∧ FirstFailing (Given args) contract arg := by
  refine blames_first rfl ?_ ?_ fails
  · rintro k d rest ⟨v, here, conforms⟩
    rw [contracted, here]
    simp only [argument_eq_ok_iff.2 conforms]
  · intro k d rest refused
    rw [contracted]
    cases here : args.get? k with
    | none => exact ⟨_, rfl, rfl⟩
    | some v =>
      cases check : argument k d v with
      | ok u => exact absurd ⟨v, here, argument_eq_ok_iff.1 check⟩ refused
      | error g =>
        refine ⟨g, ?_, arg_of_argument check⟩
        simp only [check]

/-! ## Arguments against a contract -/

/-- **The argument to blame**: the first one that the contract does not name; if it names all of them,
the first name of the contract under which there is no argument that conforms. -/
inductive Blamed (contract : Contract) (args : Table Value) (arg : String) : Prop where
  | undeclared (first : FirstFailing (fun name _ => name ∈ contract.keys) args arg)
  | unfit (declared : ∀ name ∈ args.keys, name ∈ contract.keys)
      (first : FirstFailing (Given args) contract arg)

/-- Where an undeclared name is found, not all names are declared. -/
theorem not_declared_of_firstFailing {contract : Contract} {args : Table Value} {arg : String}
    (first : FirstFailing (fun name _ => name ∈ contract.keys) args arg) :
    ¬ ∀ name ∈ args.keys, name ∈ contract.keys := by
  obtain ⟨before, value, after, rfl, -, undeclared⟩ := first
  intro declared
  refine undeclared (declared arg ?_)
  exact List.mem_map.2 ⟨(arg, value), by simp, rfl⟩

/-- There is at most one argument to blame. -/
theorem Blamed.unique {contract : Contract} {args : Table Value} {arg arg' : String}
    (blamed : Blamed contract args arg) (blamed' : Blamed contract args arg') : arg' = arg := by
  rcases blamed with first | ⟨declared, first⟩
  · rcases blamed' with first' | ⟨declared', -⟩
    · exact first.unique first'
    · exact absurd declared' (not_declared_of_firstFailing first)
  · rcases blamed' with first' | ⟨-, first'⟩
    · exact absurd declared (not_declared_of_firstFailing first')
    · exact first.unique first'

/-- Whether arguments fit depends on no order: neither on theirs nor on that of the contract. -/
theorem fits_perm {contract contract' : Contract} {args args' : Table Value}
    (once : args.keys.Nodup) (sameArgs : args.Perm args') (sameContract : contract.Perm contract') :
    Fits contract args ↔ Fits contract' args' := by
  have keys (name : String) : name ∈ args.keys ↔ name ∈ args'.keys :=
    (sameArgs.map Prod.fst).mem_iff
  have names (name : String) : name ∈ contract.keys ↔ name ∈ contract'.keys :=
    (sameContract.map Prod.fst).mem_iff
  have reads (name : String) : args.get? name = args'.get? name :=
    Table.get?_perm once sameArgs name
  simp only [fits_iff, keys, names, reads, sameContract.mem_iff]

/-- Nothing fits a contract without names but nothing. -/
theorem fits_nil_iff {args : Table Value} : Fits [] args ↔ args = [] := by
  rw [fits_iff]
  simp [Table.keys, List.eq_nil_iff_forall_not_mem]

/-- Nothing at all does not fit a contract with names. -/
theorem not_fits_nil {e : String × Descriptor} {rest : Contract} : ¬ Fits (e :: rest) [] := by
  intro fits
  cases (fits.names e.1).2 List.mem_cons_self

/-- **What the fault of refused arguments names**: nothing, if there is no contract or there are no
arguments, and else the argument to blame. -/
theorem arguments_blames {contract : Contract} {args : Option (Table Value)} {f : ArgumentFault}
    (refused : fit ((args.map .object).getD .null) contract = .error f) :
    (f.arg? = none ↔ contract = [] ∨ args = none) ∧
      ∀ arg, f.arg? = some arg ↔ contract ≠ [] ∧ ∃ fs, args = some fs ∧ Blamed contract fs arg := by
  unfold fit at refused
  cases contract with
  | nil =>
    rw [List.isEmpty_nil, if_pos rfl] at refused
    split at refused <;> cases refused
    simp [ArgumentFault.arg?]
  | cons e rest =>
    rw [List.isEmpty_cons, if_neg Bool.false_ne_true] at refused
    cases args with
    | none =>
      cases refused
      simp [ArgumentFault.arg?]
    | some fs =>
      -- One of the two walks has ended early, and what it names is the argument to blame.
      have blames : ∃ arg, f.arg? = some arg ∧ Blamed (e :: rest) fs arg := by
        simp only [Option.map_some, Option.getD_some] at refused
        cases known : knownNames (e :: rest) fs with
        | error g =>
          rw [known] at refused
          cases refused
          obtain ⟨arg, named, first⟩ := knownNames_blames known
          exact ⟨arg, named, .undeclared first⟩
        | ok u =>
          rw [known] at refused
          obtain ⟨arg, named, first⟩ := contracted_blames refused
          exact ⟨arg, named, .unfit (knownNames_eq_ok_iff.1 known) first⟩
      obtain ⟨arg, named, blamed⟩ := blames
      refine ⟨by simp [named], ?_⟩
      intro other
      rw [named, Option.some.injEq]
      constructor
      · rintro rfl
        exact ⟨List.cons_ne_nil _ _, fs, rfl, blamed⟩
      · rintro ⟨-, _, ⟨⟩, blamed'⟩
        exact (blamed.unique blamed').symm

/-- **Arguments are accepted exactly if they fit, and refused for the argument to blame.** Where nothing
is expected, there may be no arguments or none in an object; otherwise there are exactly the names of the
contract, each with a value of its type. The refusal of any other arguments names the call, and so does its
sentence. It names no argument if nothing is expected or there is no object, and else the argument to blame.
Whether arguments are accepted does not depend on the order of the arguments or of the contract. -/
theorem arguments_exact (call : String) (contract : Contract) (args : Option (Table Value)) :
    (arguments call ((args.map .object).getD .null) contract = .ok () ↔
      contract = [] ∧ (args = none ∨ args = some []) ∨
        ∃ fs, args = some fs ∧ Fits contract fs) ∧
    (∀ e, arguments call ((args.map .object).getD .null) contract = .error e →
      e.call = call ∧ NamesCall call e.message ∧
      (e.fault.arg? = none ↔ contract = [] ∨ args = none) ∧
      ∀ arg, e.fault.arg? = some arg ↔ contract ≠ [] ∧ ∃ fs, args = some fs ∧ Blamed contract fs arg) ∧
    ∀ contract' args', (args.getD []).keys.Nodup → contract.Perm contract' →
      Option.Rel List.Perm args args' →
        (arguments call ((args.map .object).getD .null) contract = .ok () ↔
          arguments call ((args'.map .object).getD .null) contract' = .ok ()) := by
  refine ⟨?_, ?_, ?_⟩
  · rw [arguments_eq_ok_iff]
    cases contract with
    | nil =>
      rw [fits_nil_iff]
      cases args with
      | none => simp
      | some fs => simp [fits_nil_iff]
    | cons e rest =>
      cases args with
      | none => simp [not_fits_nil]
      | some fs => simp
  · intro e refused
    obtain ⟨named, unfit⟩ := arguments_eq_error_iff.1 refused
    exact ⟨named, named ▸ e.fault.namesCall e.call, arguments_blames unfit⟩
  · intro contract' args' once sameContract sameArgs
    rw [arguments_eq_ok_iff, arguments_eq_ok_iff]
    cases sameArgs with
    | none => exact fits_perm once .nil sameContract
    | some same => exact fits_perm once same sameContract

/-- A boolean among the texts of a list puts the blame on the list, though it is given first and
declared last; and no other order makes these arguments acceptable. -/
theorem arguments_exact_tags :
    let contract : Contract := [("id", .ofName false "String!"), ("tags", .ofName true "String")]
    let args : Table Value := [("tags", .list [.text "a", .bool true]), ("id", .text "1")]
    arguments "find" (.object args) contract = .error ⟨"find", .item "tags" "String"⟩ ∧
      Blamed contract args "tags" ∧ arguments "find" (.object args.reverse) contract.reverse ≠ .ok () := by
  intro contract args
  have refused : arguments "find" (.object args) contract = .error ⟨"find", .item "tags" "String"⟩ := rfl
  obtain ⟨-, blames, order⟩ := arguments_exact "find" contract (some args)
  obtain ⟨-, -, -, named⟩ := blames _ refused
  obtain ⟨-, fs, same, blamed⟩ := (named "tags").1 rfl
  cases same
  have reordered := order contract.reverse (some args.reverse) (by decide)
    (List.reverse_perm contract).symm (.some (List.reverse_perm args).symm)
  refine ⟨refused, blamed, ?_⟩
  intro accepted
  cases refused.symm.trans (reordered.2 accepted)

-- A name that the contract lacks comes before one that is missing.
example : arguments "find" (.object [("other", .int 2)]) [("id", .ofName false "String")] =
    .error ⟨"find", .unexpectedName "other"⟩ := rfl

end Check

end CallTree
