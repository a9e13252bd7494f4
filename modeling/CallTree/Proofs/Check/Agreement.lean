/-
# CallTree.Proofs.Check.Agreement — arguments and results are of one type discipline.

Arguments and native results are checked by walks of their own, with faults of their own. They accept
the same values: what a resolver may return for a field of a native type can be passed as an argument
that is declared by the same token, and the other way round. A token without its marker accepts at least
as much (`Check.checks_agree`).
-/
import CallTree.Proofs.Check
import CallTree.Proofs.Descriptor

namespace CallTree

namespace Descriptor

/-- The same type without the marker: null is allowed. -/
def relaxed (d : Descriptor) : Descriptor := { d with isRequired := false }

/-- A type in order stays so without the marker. -/
theorem Proper.relaxed {d : Descriptor} (proper : d.Proper) : d.relaxed.Proper :=
  ⟨proper.named, proper.unmarked, proper.native, isToken_token proper.named proper.unmarked⟩

/-- Values of a type are of the type without the marker: among the items of a list, null is allowed
besides. -/
theorem Accepts.relaxed {d : Descriptor} {v : Value} (h : d.Accepts v) : d.relaxed.Accepts v := by
  cases h with
  | single one named => exact .single one named
  | list array each =>
    refine .list array ?_
    intro item mem
    rcases each item mem with ⟨null, -⟩ | named
    · exact .inl ⟨null, rfl⟩
    · exact .inr named

end Descriptor

namespace Check

/-- One argument against a contract of one name. -/
theorem arguments_single_eq_ok_iff {call arg : String} {d : Descriptor} {v : Value} :
    arguments call (.single arg v) [(arg, d)] = .ok () ↔
      v = .null ∧ d.isRequired = false ∨ d.Accepts v := by
  have fits : arguments call (.single arg v) [(arg, d)] = .ok () ↔ Fits [(arg, d)] [(arg, v)] :=
    @arguments_eq_ok_iff call [(arg, d)] (some [(arg, v)])
  have reads : Table.get? [(arg, v)] arg = some v := if_pos rfl
  rw [fits, fits_iff]
  simp [Table.keys, reads]

/-- **Arguments and results agree.** What a token proper declares accepts the same values as the type of
an argument and as the type of a native result, whatever the call and the argument are called. The token
without the marker declares the type that differs in this alone, and accepts all of these values. -/
theorem checks_agree {raw : Value} (valid : Descriptor.isToken raw = true) :
    ∃ d, Descriptor.ofToken raw = .ok d ∧
      Descriptor.isToken d.relaxed.token = true ∧
      Descriptor.ofToken d.relaxed.token = .ok d.relaxed ∧
      ∀ call arg v,
        (arguments call (.single arg v) [(arg, d)] = .ok () ↔ nativeResult d false v = .ok ()) ∧
        (arguments call (.single arg v) [(arg, d)] = .ok () →
          arguments call (.single arg v) [(arg, d.relaxed)] = .ok ()) ∧
        (nativeResult d false v = .ok () → nativeResult d.relaxed false v = .ok ()) := by
  obtain ⟨d, declares⟩ := Descriptor.exists_ofToken valid
  have relaxed := (Descriptor.proper_of_token valid declares).relaxed
  refine ⟨d, declares, relaxed.token, Descriptor.ofToken_token relaxed, ?_⟩
  intro call arg v
  have weaker : v = .null ∧ d.isRequired = false ∨ d.Accepts v →
      v = .null ∧ d.relaxed.isRequired = false ∨ d.relaxed.Accepts v :=
    Or.imp (fun null => ⟨null.1, rfl⟩) Descriptor.Accepts.relaxed
  rw [arguments_single_eq_ok_iff, arguments_single_eq_ok_iff, nativeResult_eq_ok_iff,
    nativeResult_eq_ok_iff, eq_self, true_and, true_and]
  exact ⟨Iff.rfl, weaker, weaker⟩

/-- Numbers that a resolver may return can be passed, with the marker and without. -/
theorem checks_agree_numbers :
    let raw : Value := .tuple [.text "Number!"]
    let v : Value := .list [.int 1, .float (.finite true 0)]
    Descriptor.isToken raw = true ∧ ∃ d, Descriptor.ofToken raw = .ok d ∧
      nativeResult d false v = .ok () ∧ arguments "total" (.single "amounts" v) [("amounts", d)] = .ok () ∧
      nativeResult d.relaxed false v = .ok () := by
  intro raw v
  have valid : Descriptor.isToken raw = true := by decide
  have returned : nativeResult ⟨"Number", true, true, true⟩ false v = .ok () := rfl
  obtain ⟨d, declares, -, -, agree⟩ := checks_agree valid
  obtain rfl : d = ⟨"Number", true, true, true⟩ := Except.ok.inj (declares.symm.trans rfl)
  obtain ⟨same, -, relaxes⟩ := agree "total" "amounts" v
  exact ⟨valid, _, declares, returned, same.2 returned, relaxes returned⟩

-- Null among the items is what the marker refuses, of both.
example : nativeResult (.ofName true "String!") false (.list [.null]) ≠ .ok () ∧
    arguments "find" (.single "tags" (.list [.null])) [("tags", .ofName true "String")] = .ok () :=
  ⟨nofun, rfl⟩

end Check

end CallTree
