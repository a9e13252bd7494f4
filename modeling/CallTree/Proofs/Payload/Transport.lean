/-
# CallTree.Proofs.Payload.Transport — a call tree is the same however it travels.

A document is decoded as it is, whatever percent signs stand in its strings, since no document starts
with one; a text that is percent-encoded from its first character on is decoded once, to the document that
it stands for, and not once more. So all the ways in which a call tree may travel come to the same
(`Payload.transports_agree`).
-/
import CallTree.Proofs.Json.Extent
import CallTree.Proofs.Payload

namespace CallTree.Payload

open Text.Percent (Encodes)

/-! ## What texts stand for -/

/-- A document stands for itself, without the blanks around it. -/
theorem said_of_document {s : String} {v : Value} (h : Json.Document s v) : said s = Text.strip s :=
  if_neg h.strip.head_ne

/-- **A document carries what it is a document of.** -/
theorem carries_of_document {s : String} {v : Value} (h : Json.Document s v) : Carries s v := by
  rw [Carries, said_of_document h]
  exact h.strip

/-- A percent sign is no blank, so it stays in front when blanks are cut off. -/
theorem head_of_append {q w : List Char} (first : (q ++ w).head? = some '%')
    (blank : ∀ c ∈ w, Text.isBlank c = true) : q.head? = some '%' := by
  rw [List.head?_append] at first
  cases start : q.head? with
  | some c =>
    rw [start] at first
    exact first
  | none =>
    rw [start] at first
    exact absurd (blank '%' (List.mem_of_head? first)) (by decide)

/-- A text with a percent sign in front stands for what it decodes to, without the blanks at its end. -/
theorem exists_said {p : String} (first : p.toList.head? = some '%') : ∃ q w, p.toList = q ++ w ∧
    (∀ c ∈ w, Text.isBlank c = true) ∧ q.head? = some '%' ∧
    said p = Text.Percent.decode (String.ofList q) := by
  obtain ⟨w, whole, blank⟩ := Text.exists_dropEndWhile Text.isBlank p.toList
  have solid : p.toList.dropWhile Text.isBlank = p.toList := by
    obtain ⟨rest, start⟩ := List.head?_eq_some_iff.1 first
    rw [start]
    rfl
  have still := head_of_append (whole ▸ first) blank
  refine ⟨_, w, whole, blank, still, ?_⟩
  have stripped : Text.strip p = String.ofList (Text.dropEndWhile Text.isBlank p.toList) := by
    rw [Text.strip, Text.trimWhile, solid]
  rw [said, stripped]
  exact if_pos (by rw [String.toList_ofList, still])

/-- An encoded text stands for the text that was encoded, without blanks at its end. -/
theorem said_of_encodes {t p : String} (encoded : Encodes t.toList p.toList)
    (first : p.toList.head? = some '%') : ∃ t' q w, t = String.ofList (t' ++ w) ∧
    (∀ c ∈ w, Text.isBlank c = true) ∧ q.head? = some '%' ∧ Encodes t' q ∧ said p = String.ofList t' := by
  obtain ⟨q, w, whole, blank, start, meaning⟩ := exists_said first
  obtain ⟨t', parted, cut⟩ := encoded.cut whole blank
  refine ⟨t', q, w, ?_, blank, start, cut, ?_⟩
  · rw [← parted, String.ofList_toList]
  · rw [meaning, Text.Percent.decode_of_encodes cut]

/-- **An encoded document carries what the document does.** -/
theorem carries_of_encodes {t p : String} {v : Value} (document : Json.Document t v)
    (encoded : Encodes t.toList p.toList) (first : p.toList.head? = some '%') : Carries p v := by
  obtain ⟨t', q, w, rfl, blank, -, -, meaning⟩ := said_of_encodes encoded first
  rw [Carries, meaning]
  exact document.cut blank

/-- **A text that is encoded twice carries nothing**: it is decoded once. -/
theorem not_carries_of_twice {t p : String} (encoded : Encodes t.toList p.toList)
    (first : p.toList.head? = some '%') (inner : t.toList.head? = some '%') (v : Value) :
    ¬ Carries p v := by
  obtain ⟨t', q, w, rfl, blank, start, cut, meaning⟩ := said_of_encodes encoded first
  rw [Carries, meaning]
  intro document
  apply document.head_ne
  rw [String.toList_ofList] at inner ⊢
  exact head_of_append inner blank

/-! ## Transports -/

/-- What a text carries it is decoded to, as a text and as octets. -/
theorem decode_of_carries {s : String} {v : Value} (h : Carries s v) :
    decode (.text s) = .ok v ∧ decode (.octets (Text.Utf8.encode s)) = .ok v := by
  have read := ofText_eq_ok_iff.2 h
  refine ⟨read, ?_⟩
  show ofOctets (Text.Utf8.encode s) = .ok v
  rw [ofOctets, Text.Utf8.decode_eq_ok_iff.2 rfl]
  exact read

/-- What is no text is the same as a request body. -/
theorem decodeBody_of_noText {s : String} {v : Value} (h : Carries s v) (noText : ∀ t, v ≠ .text t) :
    decodeBody (Text.Utf8.encode s) = .ok v := by
  rw [decodeBody_of_carries h]
  cases v with
  | text t => exact absurd rfl (noText t)
  | _ => rfl

/-- What carries nothing is refused, as a text, as octets, as a request body, and as a string in one. -/
theorem fails_of_not_carries {s : String} (h : ∀ v, ¬ Carries s v) :
    (∃ f, decode (.text s) = .error f) ∧
    (∃ f, decode (.octets (Text.Utf8.encode s)) = .error f) ∧
    (∃ f, decodeBody (Text.Utf8.encode s) = .error f) ∧
    ∀ u, Json.Document u (.text s) → ∃ f, decodeBody (Text.Utf8.encode u) = .error f := by
  obtain ⟨f, failed⟩ := ofText_fails_iff.2 h
  have octets : ofOctets (Text.Utf8.encode s) = .error f := by
    rw [ofOctets, Text.Utf8.decode_eq_ok_iff.2 rfl]
    exact failed
  refine ⟨⟨f, failed⟩, ⟨f, octets⟩, decodeBody_fails octets, ?_⟩
  intro u document
  exact ⟨f, (decodeBody_of_carries (carries_of_document document)).trans failed⟩

/-- **A call tree is the same however it travels.** Let a text be a document of a value that is no text,
and another be an encoding of it that starts with an encoded character. The value comes out of both, as
texts, as octets, as request bodies, and out of the bodies that hold either of them as a string. Nothing
is decoded that need not be: no document starts with a percent sign, and each says what it says, percent
signs and all. Nothing is decoded twice: an encoding of the encoding is refused on every way. -/
theorem transports_agree {v : Value} (noText : ∀ s, v ≠ .text s) {t p : String}
    (document : Json.Document t v) (encoded : Encodes t.toList p.toList)
    (first : p.toList.head? = some '%') :
    (∀ s, s = t ∨ s = p →
      decode (.text s) = .ok v ∧
      decode (.octets (Text.Utf8.encode s)) = .ok v ∧
      decodeBody (Text.Utf8.encode s) = .ok v ∧
      ∀ u, Json.Document u (.text s) → decodeBody (Text.Utf8.encode u) = .ok v) ∧
    (∀ s w, Json.Document s w →
      (Text.strip s).toList.head? ≠ some '%' ∧
      decode (.text s) = .ok w ∧
      decode (.octets (Text.Utf8.encode s)) = .ok w) ∧
    ∀ p', Encodes p.toList p'.toList → p'.toList.head? = some '%' →
      (∃ f, decode (.text p') = .error f) ∧
      (∃ f, decode (.octets (Text.Utf8.encode p')) = .error f) ∧
      (∃ f, decodeBody (Text.Utf8.encode p') = .error f) ∧
      ∀ u, Json.Document u (.text p') → ∃ f, decodeBody (Text.Utf8.encode u) = .error f := by
  refine ⟨?_, ?_, ?_⟩
  · intro s either
    have carries : Carries s v := by
      rcases either with rfl | rfl
      · exact carries_of_document document
      · exact carries_of_encodes document encoded first
    obtain ⟨text, octets⟩ := decode_of_carries carries
    refine ⟨text, octets, decodeBody_of_noText carries noText, ?_⟩
    intro u string
    exact (decodeBody_of_carries (carries_of_document string)).trans text
  · intro s w other
    exact ⟨other.strip.head_ne, decode_of_carries (carries_of_document other)⟩
  · intro p' again first'
    exact fails_of_not_carries (not_carries_of_twice again first' first)

/-- A name with a percent sign in it comes through: the sign is encoded too, and decoded once. -/
theorem transports_agree_sign :
    decode (.text "%5B\x22%2541\x22]") = .ok (.list [.text "%41"]) ∧
    decodeBody (Text.Utf8.encode "%5B\x22%2541\x22]") = .ok (.list [.text "%41"]) ∧
    decode (.text "[\x22%41\x22]") = .ok (.list [.text "%41"]) := by
  have plain : "[\x22%41\x22]".toList = ['[', '\x22', '%', '4', '1', '\x22', ']'] := by
    decide +kernel
  have signs : "%5B\x22%2541\x22]".toList = [['%', '5', 'B']].flatten ++
      '\x22' :: ([['%', '2', '5']].flatten ++ ['4', '1', '\x22', ']']) := by
    decide +kernel
  have document : Json.Document "[\x22%41\x22]" (.list [.text "%41"]) := by
    have word : Json.StringText ['%', '4', '1', '\x22', ']'] "%41".toList [']'] :=
      Json.string_eq_ok_iff.1 rfl
    rw [Json.Document, plain]
    exact ⟨by decide, [], .list (.lastItem (.text word) rfl), rfl⟩
  have encoded : Encodes "[\x22%41\x22]".toList "%5B\x22%2541\x22]".toList := by
    rw [plain, signs]
    refine .encoded (.cons (.digits (.inr rfl) (.inr rfl)) .nil) (.plain (by decide) ?_)
    refine .encoded (.cons (.digits (.inr rfl) (.inr rfl)) .nil) ?_
    iterate 4 refine .plain (by decide) ?_
    exact .nil
  have noText (s : String) : Value.list [.text "%41"] ≠ .text s := by
    intro same
    cases same
  obtain ⟨ways, -, -⟩ := transports_agree noText document encoded (by rw [signs]; rfl)
  obtain ⟨text, -, body, -⟩ := ways _ (.inr rfl)
  exact ⟨text, body, (ways _ (.inl rfl)).1⟩

end CallTree.Payload
