/-
# CallTree.Proofs.Payload — which payloads carry a call tree.

A text carries what the document that it stands for says (`Carries`). A query carries what its text
carries, a body what its text carries or, if that is a string, what that string carries
(`Carrier.Holds`). All else is missing, blank, no text, no document, or a string that is no document
(`Carrier.Faulty`). Decoding tells the two apart exactly (`decode_eq_ok_iff`, `decode_fails_iff`), and
what it says of a payload that carries nothing is never empty (`Fault.message_ne_empty`).
-/
import CallTree.Payload
import CallTree.Proofs.Json.Reader
import CallTree.Proofs.Text.Utf8
import Mathlib.Data.List.TakeWhile

namespace CallTree

/-! ## Sentences -/

theorem append_ne_empty {s : String} (h : s ≠ "") (t : String) : s ++ t ≠ "" :=
  fun same => h (String.append_eq_empty_iff.1 same).1

theorem Text.Utf8.Fault.message_ne_empty (f : Text.Utf8.Fault) : f.message ≠ "" := by
  unfold message
  extract_lets place reason
  exact append_ne_empty (append_ne_empty (append_ne_empty (by decide) _) _) _

theorem Json.Cause.message_ne_empty (c : Json.Cause) : c.message ≠ "" := by
  cases c with
  | tooManyDigits count =>
    show Decimal.tooManyDigitsMessage _ ≠ ""
    unfold Decimal.tooManyDigitsMessage
    repeat with_reducible apply append_ne_empty
    decide
  | _ => decide

theorem Json.Fault.message_ne_empty (f : Json.Fault) : f.message ≠ "" := by
  rw [message]
  split
  · exact f.cause.message_ne_empty
  · iterate 7 refine append_ne_empty ?_ _
    exact f.cause.message_ne_empty

namespace Payload

theorem Fault.message_ne_empty (f : Fault) : f.message ≠ "" := by
  cases f with
  | blank => decide
  | missing => decide
  | utf8 f => exact f.message_ne_empty
  | json f => exact f.message_ne_empty

/-! ## Texts -/

/-- The document that a text stands for: without the blanks around it, and percent-decoded if it
starts with a percent sign. -/
def said (s : String) : String :=
  let text := Text.strip s
  if text.toList.head? = some '%' then Text.Percent.decode text else text

/-- **A text carries a value** if it stands for a document of it. -/
def Carries (s : String) (v : Value) : Prop := Json.Document (said s) v

theorem ofText_eq (s : String) : ofText s = (Json.read (said s)).mapError .json := rfl

theorem ofText_eq_ok_iff {s : String} {v : Value} : ofText s = .ok v ↔ Carries s v := by
  rw [Carries, ← Json.read_eq_ok_iff, ofText_eq, mapError_eq_ok_iff]

theorem ofText_fails_iff {s : String} : (∃ f, ofText s = .error f) ↔ ∀ v, ¬ Carries s v := by
  simp only [← ofText_eq_ok_iff]
  cases ofText s <;> simp

/-- A blank text carries nothing. -/
theorem not_carries_of_blank {s : String} (blank : ∀ c ∈ s.toList, Text.isBlank c = true)
    (v : Value) : ¬ Carries s v := by
  have nothing : said s = "" := by
    have trimmed : Text.strip s = "" := by
      rw [Text.strip, Text.trimWhile, List.dropWhile_eq_nil_iff.2 blank]
      rfl
    rw [said, trimmed]
    rfl
  rintro ⟨-, left, derived, -⟩
  rw [nothing] at derived
  exact absurd derived.shorter (Nat.not_lt_zero _)

/-- A body of blanks is a blank text. -/
theorem blank_of_encode {s : String}
    (blank : ∀ b ∈ Text.Utf8.encode s, Text.isBlankOctet b = true) :
    ∀ c ∈ s.toList, Text.isBlank c = true := by
  intro c mem
  have octets : ∀ b ∈ String.utf8EncodeChar c,
      0x09 ≤ b.toNat ∧ b.toNat ≤ 0x0d ∨ b.toNat = 0x20 := by
    intro b at_
    have := blank b (List.mem_flatMap.2 ⟨c, mem, at_⟩)
    simpa only [Text.isBlankOctet, Bool.or_eq_true, Bool.and_eq_true, decide_eq_true_eq,
      UInt8.le_iff_toNat_le, ← UInt8.toNat_inj, UInt8.reduceToNat] using this
  -- Only the sequences of one octet are made of blank octets.
  have ascii : 0x09 ≤ c.toNat ∧ c.toNat ≤ 0x0d ∨ c.toNat = 0x20 := by
    have sequence := Text.Utf8.sequence_encode c
    generalize String.utf8EncodeChar c = bs at sequence octets
    cases sequence with
    | one small code =>
      rw [code]
      exact octets _ (List.mem_singleton_self _)
    | two lead code | three lead tail code | four lead tail last code =>
      have := octets _ List.mem_cons_self
      unfold Text.Utf8.Leads at lead
      omega
  simp only [Text.isBlank, Bool.or_eq_true, Bool.and_eq_true, decide_eq_true_eq]
  omega

/-! ## Requests -/

/-- **How a payload travels**: as a text in a query, if it is there, or as the octets of a body. -/
inductive Carrier where
  | query (text : Option String)
  | body (octets : List UInt8)

namespace Carrier

/-- Decode a payload. -/
def decode : Carrier → Except Fault Value
  | .query none => .error .missing
  | .query (some s) => ofText s
  | .body bs => decodeBody bs

/-- **The call tree that a payload carries.** -/
inductive Holds : Carrier → Value → Prop where
  | query {s : String} {tree : Value} (carries : Carries s tree) : Holds (.query (some s)) tree
  | body {s : String} {tree : Value} (carries : Carries s tree) (plain : ∀ t, tree ≠ .text t) :
      Holds (.body (Text.Utf8.encode s)) tree
  | string {s t : String} {tree : Value} (carries : Carries s (.text t)) (inner : Carries t tree) :
      Holds (.body (Text.Utf8.encode s)) tree

/-- **Why a payload carries no call tree.** -/
inductive Faulty : Carrier → Prop where
  | missing : Faulty (.query none)
  | blankQuery {s : String} (blank : ∀ c ∈ s.toList, Text.isBlank c = true) :
      Faulty (.query (some s))
  | noDocument {s : String} (no : ∀ v, ¬ Carries s v) : Faulty (.query (some s))
  | blankBody {bs : List UInt8} (blank : ∀ b ∈ bs, Text.isBlankOctet b = true) : Faulty (.body bs)
  | noText {bs : List UInt8} (no : ∀ s, bs ≠ Text.Utf8.encode s) : Faulty (.body bs)
  | noDocumentInBody {s : String} (no : ∀ v, ¬ Carries s v) : Faulty (.body (Text.Utf8.encode s))
  | noDocumentInString {s t : String} (carries : Carries s (.text t)) (no : ∀ v, ¬ Carries t v) :
      Faulty (.body (Text.Utf8.encode s))

/-- Every payload carries a call tree or is faulty. -/
theorem holds_or_faulty (c : Carrier) : (∃ tree, c.Holds tree) ∨ c.Faulty := by
  cases c with
  | query text =>
    cases text with
    | none => exact .inr .missing
    | some s =>
      by_cases some_ : ∃ v, Carries s v
      · exact .inl (some_.imp fun _ carries => .query carries)
      · exact .inr (.noDocument (not_exists.1 some_))
  | body bs =>
    by_cases text : ∃ s, bs = Text.Utf8.encode s
    · obtain ⟨s, rfl⟩ := text
      by_cases some_ : ∃ v, Carries s v
      · obtain ⟨v, carries⟩ := some_
        by_cases string : ∃ t, v = .text t
        · obtain ⟨t, rfl⟩ := string
          by_cases inner : ∃ v, Carries t v
          · exact .inl (inner.imp fun _ => .string carries)
          · exact .inr (.noDocumentInString carries (not_exists.1 inner))
        · exact .inl ⟨v, .body carries (not_exists.1 string)⟩
      · exact .inr (.noDocumentInBody (not_exists.1 some_))
    · exact .inr (.noText (not_exists.1 text))

end Carrier

/-- What is made of the document in a body: if it is a string, that is read once more. -/
def unwrapped : Value → Except Fault Value
  | .text t => ofText t
  | v => .ok v

/-- A body is read as its text, and once more if that says a string. -/
theorem decodeBody_of_carries {s : String} {v : Value} (carries : Carries s v) :
    decodeBody (Text.Utf8.encode s) = unwrapped v := by
  rw [decodeBody, if_neg, ofOctets, Text.Utf8.decode_eq_ok_iff.2 rfl]
  · simp only [ofText_eq_ok_iff.2 carries]
    cases v <;> rfl
  · intro blank
    exact not_carries_of_blank (blank_of_encode (List.all_eq_true.1 blank)) v carries

/-- A body is refused if its octets are. -/
theorem decodeBody_fails {bs : List UInt8} {f : Fault} (h : ofOctets bs = .error f) :
    ∃ f, decodeBody bs = .error f := by
  rw [decodeBody, h]
  by_cases blank : bs.all Text.isBlankOctet = true
  · exact ⟨.blank, if_pos blank⟩
  · exact ⟨f, if_neg blank⟩

namespace Carrier

theorem decode_of_holds {c : Carrier} {tree : Value} (h : c.Holds tree) : c.decode = .ok tree := by
  cases h with
  | query carries => rw [decode, ofText_eq_ok_iff.2 carries]
  | body carries plain =>
    rw [decode, decodeBody_of_carries carries]
    unfold unwrapped
    split
    · exact absurd rfl (plain _)
    · rfl
  | string carries inner =>
    rw [decode, decodeBody_of_carries carries, unwrapped, ofText_eq_ok_iff.2 inner]

theorem fails_of_faulty {c : Carrier} (h : c.Faulty) : ∃ f, c.decode = .error f := by
  cases h with
  | missing => exact ⟨_, rfl⟩
  | blankQuery blank =>
    rw [decode, ofText_fails_iff]
    exact not_carries_of_blank blank
  | noDocument no =>
    rw [decode, ofText_fails_iff]
    exact no
  | blankBody blank =>
    rw [decode, decodeBody, if_pos (List.all_eq_true.2 blank)]
    exact ⟨_, rfl⟩
  | @noText bs no =>
    cases read : Text.Utf8.decode bs with
    | ok s => exact absurd (Text.Utf8.decode_eq_ok_iff.1 read) (no s)
    | error f =>
      exact decodeBody_fails (f := .utf8 f) (by rw [ofOctets, read])
  | @noDocumentInBody s no =>
    obtain ⟨f, failed⟩ := ofText_fails_iff.2 no
    apply decodeBody_fails (f := f)
    rw [ofOctets, Text.Utf8.decode_eq_ok_iff.2 rfl]
    exact failed
  | noDocumentInString carries no =>
    rw [decode, decodeBody_of_carries carries, unwrapped, ofText_fails_iff]
    exact no

/-- **A payload is decoded to a call tree exactly if it carries it.** -/
theorem decode_eq_ok_iff {c : Carrier} {tree : Value} : c.decode = .ok tree ↔ c.Holds tree := by
  -- What is decoded is not faulty, so it carries some call tree, and that is the one it is decoded to.
  refine ⟨fun decoded => ?_, decode_of_holds⟩
  rcases holds_or_faulty c with ⟨tree', holds⟩ | faulty
  · cases decoded.symm.trans (decode_of_holds holds)
    exact holds
  · obtain ⟨f, failed⟩ := fails_of_faulty faulty
    cases decoded.symm.trans failed

/-- **A payload is refused exactly for one of these reasons.** -/
theorem decode_fails_iff {c : Carrier} : (∃ f, c.decode = .error f) ↔ c.Faulty := by
  refine ⟨?_, fails_of_faulty⟩
  rintro ⟨f, failed⟩
  refine (holds_or_faulty c).resolve_left ?_
  rintro ⟨tree, holds⟩
  cases failed.symm.trans (decode_of_holds holds)

end Carrier

end Payload

end CallTree
