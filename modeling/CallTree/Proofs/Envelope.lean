/-
# CallTree.Proofs.Envelope — the answer to a request as a value, and as a document.

An answer is sent as one value. Apart from its data there are only texts in it, in lists and in one object
(`Envelope.partOf_toValue`). So whether all of it can be said in a document hangs on the data, and so does
what is read back.
-/
import CallTree.Envelope
import CallTree.Proofs.Json.RoundTrip

namespace CallTree.Envelope

open Value

/-! ## Parts -/

/-- What is part of the data is part of the answer. -/
theorem partOf_success {w data : Value} (part : PartOf w data)
    (errors : List (List String)) : PartOf w (success data errors).toValue := by
  have here {fs : Table Value} : PartOf w (.object (("data", data) :: fs)) :=
    .field List.mem_cons_self part
  cases errors with
  | nil => exact here
  | cons => exact here

/-- The failures of an answer are said in lists of texts. -/
theorem partOf_errorsValue {part : Value} {errors : List (List String)}
    (h : PartOf part (errorsValue errors)) : (∃ xs, part = .list xs) ∨ ∃ t, part = .text t := by
  rcases (partOf_items_iff rfl).1 h with rfl | ⟨entry, mem, inner⟩
  · exact .inl ⟨_, rfl⟩
  obtain ⟨sentences, -, rfl⟩ := List.mem_map.1 mem
  rcases (partOf_items_iff rfl).1 inner with rfl | ⟨sentence, mem, inner⟩
  · exact .inl ⟨_, rfl⟩
  obtain ⟨t, -, rfl⟩ := List.mem_map.1 mem
  cases inner
  exact .inr ⟨t, rfl⟩

/-- **A part of an answer** is part of the data, or else no more than an object, a list or a text. -/
theorem partOf_toValue {part : Value} {e : Envelope} (h : PartOf part e.toValue) :
    (∃ fs, part = .object fs) ∨ (∃ xs, part = .list xs) ∨ (∃ t, part = .text t) ∨
      ∃ data errors, e = .success data errors ∧ PartOf part data := by
  have failures {errors : List (List String)} (inner : PartOf part (errorsValue errors)) :
      (∃ fs, part = .object fs) ∨ (∃ xs, part = .list xs) ∨ (∃ t, part = .text t) ∨
        ∃ data errors, e = .success data errors ∧ PartOf part data :=
    .inr ((partOf_errorsValue inner).imp_right .inl)
  rcases partOf_object_iff.1 h with rfl | ⟨field, mem, inner⟩
  · exact .inl ⟨_, rfl⟩
  match e with
  | .success data [] =>
    cases List.mem_singleton.1 mem
    exact .inr (.inr (.inr ⟨data, [], rfl, inner⟩))
  | .success data (first :: rest) =>
    rcases List.mem_cons.1 mem with rfl | mem
    · exact .inr (.inr (.inr ⟨data, first :: rest, rfl, inner⟩))
    · cases List.mem_singleton.1 mem
      exact failures inner
  | .failure tag message =>
    cases List.mem_singleton.1 mem
    exact failures inner

/-- **An answer with a part that cannot be said** has that part in its data. -/
theorem partOf_data_of_wordless {part : Value} {e : Envelope} {f : Json.PrintFault}
    (h : PartOf part e.toValue) (wordless : part.Wordless f) : ∃ data errors, e = .success data errors ∧ PartOf part data := by
  rcases partOf_toValue h with ⟨fs, rfl⟩ | ⟨xs, rfl⟩ | ⟨t, rfl⟩ | data
  · cases wordless
  · cases wordless
  · cases wordless
  · exact data

theorem spoken_failure (tag message : String) : (failure tag message).toValue.Spoken := by
  intro part h f wordless
  obtain ⟨_, _, success, -⟩ := partOf_data_of_wordless h wordless
  cases success

theorem spoken_success {data : Value} (spoken : data.Spoken) (errors : List (List String)) :
    (success data errors).toValue.Spoken := by
  intro part h f wordless
  obtain ⟨_, _, success, inner⟩ := partOf_data_of_wordless h wordless
  cases success
  exact spoken part inner f wordless

/-- An answer is readable if its data is. -/
theorem readable_toValue {e : Envelope}
    (readable : ∀ data errors, e = .success data errors → ∀ part, PartOf part data → part.Readable)
    (part : Value) (h : PartOf part e.toValue) : part.Readable := by
  rcases partOf_toValue h with ⟨fs, rfl⟩ | ⟨xs, rfl⟩ | ⟨t, rfl⟩ | ⟨data, errors, success, inner⟩
  · trivial
  · trivial
  · trivial
  · exact readable data errors success part inner

/-! ## What is read -/

theorem asRead_errorsValue (errors : List (List String)) :
    (errorsValue errors).asRead = errorsValue errors := by
  apply asRead_eq_self
  intro part h
  rcases partOf_errorsValue h with ⟨xs, rfl⟩ | ⟨t, rfl⟩
  · trivial
  · trivial

/-- **The answer to data that is read back from a document.** -/
theorem asRead_success (data : Value) (errors : List (List String)) :
    (success data errors).toValue.asRead = (success data.asRead errors).toValue := by
  cases errors with
  | nil => exact asRead_object _
  | cons first rest =>
    have said := asRead_object (success data (first :: rest)).toFields
    simp only [toFields, List.map_cons, List.map_nil, asRead_errorsValue] at said
    exact said

theorem asRead_failure (tag message : String) :
    (failure tag message).toValue.asRead = (failure tag message).toValue := by
  have said := asRead_object (failure tag message).toFields
  simp only [toFields, List.map_cons, List.map_nil, asRead_errorsValue] at said
  exact said

end CallTree.Envelope
