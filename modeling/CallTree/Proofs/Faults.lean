/-
# CallTree.Proofs.Faults — the sentences of what aborts a request.

Every fault that a call tree meets has words of its own: its sentence is not empty, and not the one
which tells that a time limit is up (`Worded`). The sentence on a type that is not declared is no other
fault's either (`Plain`). Nearly all sentences show it at their first two characters; a contradiction of
charset flags shows it at the last.
-/
import CallTree.Execution
import CallTree.Proofs.Condition

namespace CallTree

/-- A text that begins neither as the sentence on a time limit nor as that on a type which is not
declared. -/
def Opens (s : String) : Prop :=
  ∃ c d rest, s.toList = c :: d :: rest ∧ ¬ (c = 'R' ∧ d = 'e') ∧ ¬ (c = 'T' ∧ d = 'y')

theorem Opens.append {s : String} (h : Opens s) (t : String) : Opens (s ++ t) := by
  obtain ⟨c, d, rest, front, other⟩ := h
  refine ⟨c, d, rest ++ t.toList, ?_, other⟩
  rw [String.toList_append, front]
  rfl

/-- **A sentence with words of its own**: it is not empty, and not that of a time limit. -/
def Worded (s : String) : Prop := s ≠ "" ∧ ∀ x, s ≠ Limit.elapsedMessage x

/-- **A sentence with words of its own** that is not the one on a type which is not declared. -/
def Plain (s : String) : Prop := Worded s ∧ ∀ name, s ≠ Registry.undefinedMessage name

/-- The sentence on a time limit, between its first words and its end. -/
theorem elapsedMessage_eq (x : Binary64) :
    Limit.elapsedMessage x = "Request timed out after " ++ Decimal.duration x ++ "s." := rfl

theorem elapsedMessage_ne (x : Binary64) : Limit.elapsedMessage x ≠ "" := by
  intro empty
  have front := congrArg String.length empty
  rw [elapsedMessage_eq, String.length_append, String.length_append] at front
  exact absurd (Nat.add_eq_zero_iff.1 (Nat.add_eq_zero_iff.1 front).1).1 (by decide)

/-- How the sentences begin that most faults stay clear of. -/
theorem toList_elapsedMessage (x : Binary64) :
    ∃ rest, (Limit.elapsedMessage x).toList = 'R' :: 'e' :: rest := by
  rw [elapsedMessage_eq, String.toList_append, String.toList_append]
  exact ⟨_, rfl⟩

theorem toList_undefinedMessage (name : String) :
    ∃ rest, (Registry.undefinedMessage name).toList = 'T' :: 'y' :: rest := by
  rw [Registry.undefinedMessage, String.toList_append, String.toList_append]
  exact ⟨_, rfl⟩

theorem Opens.plain {s : String} (h : Opens s) : Plain s := by
  obtain ⟨c, d, rest, front, notLimit, notUndefined⟩ := h
  refine ⟨⟨?_, fun x same => ?_⟩, fun name same => ?_⟩
  · rintro rfl
    cases front
  · obtain ⟨rest', there⟩ := toList_elapsedMessage x
    rw [same, there] at front
    cases front
    exact notLimit ⟨rfl, rfl⟩
  · obtain ⟨rest', there⟩ := toList_undefinedMessage name
    rw [same, there] at front
    cases front
    exact notUndefined ⟨rfl, rfl⟩

/-- The sentence on a type that is not declared. -/
theorem worded_undefined (name : String) : Worded (Registry.undefinedMessage name) := by
  obtain ⟨rest, here⟩ := toList_undefinedMessage name
  refine ⟨fun same => ?_, fun x same => ?_⟩
  · rw [same] at here
    cases here
  · obtain ⟨rest', there⟩ := toList_elapsedMessage x
    rw [same, there] at here
    cases here

theorem elapsedMessage_ne_undefined (x : Binary64) (name : String) :
    Limit.elapsedMessage x ≠ Registry.undefinedMessage name :=
  fun same => (worded_undefined name).2 x same.symm

/-- A type that is not declared is named in the sentence on it. -/
theorem undefinedMessage_inj {name name' : String}
    (same : Registry.undefinedMessage name = Registry.undefinedMessage name') : name = name' := by
  have letters := congrArg String.toList same
  rw [Registry.undefinedMessage, Registry.undefinedMessage, String.toList_append,
    String.toList_append, String.toList_append, String.toList_append] at letters
  exact String.toList_inj.1 (List.append_cancel_left (List.append_cancel_right letters))

/-- A contradiction of charset flags has another end. -/
theorem Plain.charset (left right : String) :
    Plain (left ++ " and " ++ right ++ " flags are incompatible") := by
  have last (c : Char) (s t : String) (h : t.toList.getLast? = some c) :
      (s ++ t).toList.getLast? = some c := by
    rw [String.toList_append, List.getLast?_append, h]
    rfl
  have here := last 'e' (left ++ " and " ++ right) " flags are incompatible" rfl
  refine ⟨⟨fun same => ?_, fun x same => ?_⟩, fun name same => ?_⟩
  · rw [same] at here
    cases here
  · rw [same, elapsedMessage_eq, last '.' _ "s." rfl] at here
    cases here
  · rw [same, Registry.undefinedMessage, last '.' _ "\" is not defined." rfl] at here
    cases here

/-! ## Faults of all kinds -/

theorem opens_tooManyDigits (found : String) : Opens (Decimal.tooManyDigitsMessage found) := by
  unfold Decimal.tooManyDigitsMessage
  repeat with_reducible apply Opens.append
  exact ⟨_, _, _, rfl, by decide, by decide⟩

/-- A sentence about a value, or why that cannot be quoted. -/
theorem ShapeFault.opens_of_about {f : ShapeFault} {v : Value} {wrong : String}
    (sentence : f.message = about v wrong) : Opens f.text := by
  rw [text, sentence, about]
  cases describe v with
  | ok text => exact Opens.append (Opens.append ⟨_, _, _, rfl, by decide, by decide⟩ text) wrong
  | error e =>
    cases e
    exact opens_tooManyDigits ""

theorem ShapeFault.plain (f : ShapeFault) : Plain f.text := by
  apply Opens.plain
  cases f with
  | noList v => exact opens_of_about rfl
  | noName v => exact opens_of_about rfl
  | _ =>
    -- The first piece of every other sentence is written out, so its first characters are known.
    simp only [ShapeFault.text, ShapeFault.message]
    repeat with_reducible apply Opens.append
    exact ⟨_, _, _, rfl, by decide, by decide⟩

theorem ArgumentFault.plain (call : String) (f : ArgumentFault) : Plain (f.message call) := by
  apply Opens.plain
  cases f
  all_goals
    unfold ArgumentFault.message
    repeat with_reducible apply Opens.append
    exact ⟨_, _, _, rfl, by decide, by decide⟩

theorem ResultFault.plain (call : String) {f : ResultFault} (other : ∀ name, f ≠ .undefinedType name) :
    Plain (f.message call) := by
  cases f
  case undefinedType name => exact absurd rfl (other name)
  all_goals
    apply Opens.plain
    unfold ResultFault.message
    repeat with_reducible apply Opens.append
    exact ⟨_, _, _, rfl, by decide, by decide⟩

theorem Limit.Fault.plain (f : Limit.Fault) : Plain f.message := by
  apply Opens.plain
  cases f
  all_goals
    unfold Limit.Fault.message
    repeat with_reducible apply Opens.append
    exact ⟨_, _, _, rfl, by decide, by decide⟩

namespace Condition

theorem SetFault.plain {g : SetFault}
    (unread : ∀ f, g = .badPattern f → ∃ v, readPattern v = .error f) : Plain g.message := by
  cases g with
  | badPattern f =>
    cases f with
    | charsetContradiction sentence =>
      obtain ⟨v, faulty⟩ := unread _ rfl
      obtain ⟨left, right, rfl⟩ := charset_of_readPattern faulty
      exact .charset left right
    | tooManyDigits count =>
      exact (opens_tooManyDigits _).plain
    | _ =>
      apply Opens.plain
      unfold SetFault.message
      repeat with_reducible apply Opens.append
      exact ⟨_, _, _, rfl, by decide, by decide⟩
  | _ =>
    apply Opens.plain
    unfold SetFault.message
    repeat with_reducible apply Opens.append
    exact ⟨_, _, _, rfl, by decide, by decide⟩

/-- **Why a condition set does not answer** has a sentence of its own. -/
theorem plain_pass {conditions : Value} {output : Table Value} {f : Fault}
    (h : pass conditions output = .error f) : Plain f.message := by
  rcases pass_error h with ⟨g, rfl, unread⟩ | rfl | ⟨g, rfl⟩
  · exact SetFault.plain unread
  · exact Opens.plain ⟨_, _, _, rfl, by decide, by decide⟩
  · cases g <;> exact Opens.plain ⟨_, _, _, rfl, by decide, by decide⟩

end Condition

end CallTree
