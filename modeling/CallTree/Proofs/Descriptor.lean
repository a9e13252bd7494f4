/-
# CallTree.Proofs.Descriptor — what tokens declare.

A value that is a token proper declares a descriptor in order (`Descriptor.Proper`): it has a name
without a marker, knows whether that is the name of a native type, and can be written as a token again
(`Descriptor.proper_of_token`).
-/
import CallTree.Descriptor

namespace CallTree

/-- The names of the native types, as they are looked up. -/
theorem Native.isSome_ofName?_iff {s : String} :
    (Native.ofName? s).isSome = true ↔ ∃ n : Native, n.name = s := by
  constructor
  · intro known
    unfold ofName? at known
    split at known
    · rename_i same
      exact ⟨.object, same.symm⟩
    · split at known
      · rename_i same
        exact ⟨.text, same.symm⟩
      · split at known
        · rename_i same
          exact ⟨.number, same.symm⟩
        · split at known
          · rename_i same
            exact ⟨.boolean, same.symm⟩
          · cases known
  · rintro ⟨n, rfl⟩
    rw [ofName?_name]
    rfl

namespace Descriptor

/-! ## Markers -/

theorem splitMarker_push (s : String) : splitMarker (s.push marker) = (s, true) := by
  rw [splitMarker, String.toList_push, List.getLast?_concat, if_pos rfl, List.dropLast_concat,
    String.ofList_toList]

theorem splitMarker_of_not_mem {s : String} (unmarked : marker ∉ s.toList) :
    splitMarker s = (s, false) := by
  rw [splitMarker, if_neg]
  exact fun last => unmarked (List.mem_of_getLast? last)

theorem ofName_eq (isArray : Bool) (s : String) :
    ofName isArray s =
      { name := (splitMarker s).1, isArray, isRequired := (splitMarker s).2
        isNative := (Native.ofName? (splitMarker s).1).isSome } := rfl

/-- **A name is no native one**, with a marker or without, if what it declares is not native. -/
theorem isNative_ofName_eq_false_iff (isArray : Bool) (s : String) :
    (ofName isArray s).isNative = false ↔ ∀ n : Native, s ≠ n.name ∧ s ≠ n.name.push marker := by
  have plain (n : Native) : marker ∉ n.name.toList := by cases n <;> decide
  constructor
  · intro notNative n
    constructor
    · rintro rfl
      simp only [ofName, splitMarker_of_not_mem (plain n), Native.ofName?_name] at notNative
      cases notNative
    · rintro rfl
      simp only [ofName, splitMarker_push, Native.ofName?_name] at notNative
      cases notNative
  · intro others
    refine Bool.eq_false_iff.2 fun native => ?_
    rw [ofName_eq] at native
    obtain ⟨n, same⟩ := Native.isSome_ofName?_iff.1 native
    -- What is left of the name without its marker is the native name.
    by_cases last : s.toList.getLast? = some marker
    · rw [splitMarker, if_pos last] at same
      refine (others n).2 (String.toList_inj.1 ?_)
      obtain ⟨front, all⟩ := List.getLast?_eq_some_iff.1 last
      rw [same, String.toList_push, String.toList_ofList, all, List.dropLast_concat]
    · rw [splitMarker, if_neg last] at same
      exact (others n).1 same.symm

/-! ## Descriptors in order -/

/-- **A descriptor in order.** -/
structure Proper (d : Descriptor) : Prop where
  named : d.name ≠ ""
  unmarked : marker ∉ d.name.toList
  native : d.isNative = true ↔ ∃ n : Native, n.name = d.name
  token : isToken d.token = true

theorem isNameToken_iff {s : String} : isNameToken s = true ↔
    (splitMarker s).1 ≠ "" ∧ marker ∉ (splitMarker s).1.toList := by
  simp [isNameToken]

/-- A name without a marker is told from the marker behind it. -/
theorem splitMarker_markedName {d : Descriptor} (unmarked : marker ∉ d.name.toList) :
    splitMarker d.markedName = (d.name, d.isRequired) := by
  unfold markedName
  cases d.isRequired with
  | true => exact splitMarker_push d.name
  | false => exact splitMarker_of_not_mem unmarked

/-- The token of a descriptor with a name is a token proper. -/
theorem isToken_token {d : Descriptor} (named : d.name ≠ "") (unmarked : marker ∉ d.name.toList) :
    isToken d.token = true := by
  have valid : isNameToken d.markedName = true := by
    rw [isNameToken_iff, splitMarker_markedName unmarked]
    exact ⟨named, unmarked⟩
  unfold token
  split <;> exact valid

/-- What a name declares, with a marker or without. -/
theorem proper_ofName {s : String} (valid : isNameToken s = true) (isArray : Bool) :
    (ofName isArray s).Proper := by
  obtain ⟨named, unmarked⟩ := isNameToken_iff.1 valid
  exact ⟨named, unmarked, Native.isSome_ofName?_iff, isToken_token named unmarked⟩

/-- **What a token proper declares is in order.** -/
theorem proper_of_token {v : Value} {d : Descriptor} (valid : isToken v = true)
    (reads : ofToken v = .ok d) : d.Proper := by
  unfold isToken at valid
  split at valid
  · cases reads
    exact proper_ofName valid _
  · cases reads
    exact proper_ofName valid _
  · cases reads
    exact proper_ofName valid _
  · cases valid

/-- **A descriptor in order is what its token declares.** -/
theorem ofToken_token {d : Descriptor} (proper : d.Proper) : ofToken d.token = .ok d := by
  have declared (isArray : Bool) : ofName isArray d.markedName =
      { d with isArray } := by
    have native : (Native.ofName? d.name).isSome = d.isNative := by
      rw [Bool.eq_iff_iff, Native.isSome_ofName?_iff, proper.native]
    rw [ofName_eq, splitMarker_markedName proper.unmarked]
    simp only [native]
  unfold token
  cases here : d.isArray with
  | true =>
    show Except.ok (ofName true d.markedName) = _
    rw [declared, ← here]
  | false =>
    show Except.ok (ofName false d.markedName) = _
    rw [declared, ← here]

/-- A token proper can be read. -/
theorem exists_ofToken {v : Value} (valid : isToken v = true) : ∃ d, ofToken v = .ok d := by
  unfold isToken at valid
  split at valid
  · exact ⟨_, rfl⟩
  · exact ⟨_, rfl⟩
  · exact ⟨_, rfl⟩
  · cases valid

/-! ## Tokens proper -/

/-- **What a token proper denotes.** The descriptor has a name without the marker, which is native if a
native type has it. The token is that name, with the marker behind it if the type is required; for a list of
the type, it is the one item of a list or tuple. -/
structure Denotes (v : Value) (d : Descriptor) : Prop where
  named : d.name ≠ ""
  unmarked : marker ∉ d.name.toList
  native : d.isNative = true ↔ ∃ n : Native, n.name = d.name
  written : v = d.token ∨ d.isArray = true ∧ v = .tuple [.text d.markedName]

/-- A text is written as the name and the marker that have been read from it. -/
theorem markedName_ofName (isArray : Bool) (s : String) : (ofName isArray s).markedName = s := by
  by_cases last : s.toList.getLast? = some marker
  · obtain ⟨front, all⟩ := List.getLast?_eq_some_iff.1 last
    apply String.toList_inj.1
    simp [ofName, markedName, splitMarker, all]
  · simp [ofName, markedName, splitMarker, last]

/-- **Tokens proper are the values that are accepted as tokens**, and denote what they declare. -/
theorem denotes_iff {v : Value} {d : Descriptor} :
    Denotes v d ↔ isToken v = true ∧ ofToken v = .ok d := by
  constructor
  · rintro ⟨named, unmarked, native, written⟩
    have token := isToken_token named unmarked
    have reads := ofToken_token ⟨named, unmarked, native, token⟩
    rcases written with rfl | ⟨array, rfl⟩
    · exact ⟨token, reads⟩
    · -- A tuple is read as the list of the same item is.
      simp only [Descriptor.token, array, if_true] at token reads
      exact ⟨token, reads⟩
  · rintro ⟨valid, reads⟩
    obtain ⟨named, unmarked, native, -⟩ := proper_of_token valid reads
    refine ⟨named, unmarked, native, ?_⟩
    unfold isToken at valid
    split at valid
    · cases reads
      left
      show _ = Value.text (ofName false _).markedName
      rw [markedName_ofName]
    · cases reads
      left
      show _ = Value.list [.text (ofName true _).markedName]
      rw [markedName_ofName]
    · cases reads
      exact .inr ⟨rfl, by rw [markedName_ofName]⟩
    · cases valid

/-- A token denotes one thing. -/
theorem Denotes.unique {v : Value} {d d' : Descriptor} (one : Denotes v d) (other : Denotes v d') : d = d' :=
  Except.ok.inj ((denotes_iff.1 one).2.symm.trans (denotes_iff.1 other).2)

theorem Denotes.proper {v : Value} {d : Descriptor} (denotes : Denotes v d) : d.Proper :=
  ⟨denotes.named, denotes.unmarked, denotes.native, isToken_token denotes.named denotes.unmarked⟩

/-- A descriptor in order is what its token denotes. -/
theorem Proper.denotes {d : Descriptor} (proper : d.Proper) : Denotes d.token d :=
  ⟨proper.named, proper.unmarked, proper.native, .inl rfl⟩

end Descriptor

end CallTree
