/-
# CallTree.Proofs.Except — results and faults that are passed on.

A computation may be followed by a function of its result or by one of its fault. What came out in the
end tells what came out before.
-/

namespace CallTree

variable {ε ε' α β : Type}

/-- A result behind a function comes from a result in front of it. -/
theorem map_eq_ok_iff {x : Except ε α} {f : α → β} {b : β} :
    x.map f = .ok b ↔ ∃ a, x = .ok a ∧ f a = b := by
  cases x <;> simp [Except.map]

/-- There is a result behind a function if and only if there is one in front of it. -/
theorem map_succeeds_iff {x : Except ε α} {f : α → β} : (∃ b, x.map f = .ok b) ↔ ∃ a, x = .ok a := by
  constructor
  · rintro ⟨b, h⟩
    obtain ⟨a, known, -⟩ := map_eq_ok_iff.1 h
    exact ⟨a, known⟩
  · rintro ⟨a, rfl⟩
    exact ⟨f a, rfl⟩

/-- A result behind a further computation comes from a result in front of it. -/
theorem bind_eq_ok_iff {x : Except ε α} {f : α → Except ε β} {b : β} :
    x >>= f = .ok b ↔ ∃ a, x = .ok a ∧ f a = .ok b := by
  cases x <;> simp [bind, Except.bind]

/-- A fault behind a further computation comes from the one in front, or from that one on its result. -/
theorem bind_eq_error_iff {x : Except ε α} {f : α → Except ε β} {e : ε} :
    x >>= f = .error e ↔ x = .error e ∨ ∃ a, x = .ok a ∧ f a = .error e := by
  cases x <;> simp [bind, Except.bind]

/-- A function of the result keeps whether there is one. -/
theorem isOk_map (x : Except ε α) (f : α → β) : (x.map f).isOk = x.isOk := by
  cases x <;> rfl

/-- The result, if there is one. -/
theorem toOption_eq_some_iff {x : Except ε α} {a : α} : x.toOption = some a ↔ x = .ok a := by
  cases x <;> simp [Except.toOption]

/-- A fault is passed on as it is. -/
theorem error_of_map {x : Except ε α} {f : α → β} {e : ε} (h : x.map f = .error e) :
    x = .error e := by
  cases x with
  | ok a => cases h
  | error e' =>
    cases h
    rfl

/-- A result stays as it is where faults are put in other words. -/
theorem mapError_eq_ok_iff {x : Except ε α} {f : ε → ε'} {a : α} :
    x.mapError f = .ok a ↔ x = .ok a := by
  cases x with
  | ok b => exact ⟨fun h => congrArg _ (Except.ok.inj h), fun h => congrArg _ (Except.ok.inj h)⟩
  | error e => exact iff_of_false nofun nofun

/-- A fault that is put in other words. -/
theorem error_of_mapError {x : Except ε α} {f : ε → ε'} {e : ε'} (h : x.mapError f = .error e) :
    ∃ e', x = .error e' ∧ f e' = e := by
  cases x with
  | ok a => cases h
  | error e' =>
    cases h
    exact ⟨e', rfl, rfl⟩

/-- There is a fault if and only if there is one in other words. -/
theorem mapError_fails_iff {x : Except ε α} {f : ε → ε'} :
    (∃ e', x.mapError f = .error e') ↔ ∃ e, x = .error e := by
  constructor
  · rintro ⟨e', h⟩
    obtain ⟨e, known, -⟩ := error_of_mapError h
    exact ⟨e, known⟩
  · rintro ⟨e, rfl⟩
    exact ⟨f e, rfl⟩

end CallTree
