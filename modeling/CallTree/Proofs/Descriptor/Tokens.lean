/-
# CallTree.Proofs.Descriptor.Tokens — tokens and descriptors, one for one.

The grammar of tokens has two levels. A name with at most one marker behind it is a token for a value
(`Descriptor.Spelled`), and so is a list or tuple of just one such text for many (`Descriptor.Token`). The check
of tokens and the reader take the marker off in two places; both agree with the grammar, and on what it accepts
reading and writing are inverse to each other, but for tuples, which are written as lists
(`Descriptor.tokens_exact`).
-/
import CallTree.Proofs.Descriptor

namespace CallTree

namespace Descriptor

/-! ## The grammar -/

/-- **A name of a type**: it has characters, and the marker is none of them. -/
structure Name (name : String) : Prop where
  nonempty : name ≠ ""
  unmarked : marker ∉ name.toList

/-- **A text that is a token**: a name, or a name with the marker behind it. -/
inductive Spelled : String → Prop where
  | name {s : String} (name : Name s) : Spelled s
  | required {s : String} (name : Name s) : Spelled (s.push marker)

/-- **The tokens**: such a text, alone or as the only item of a list or tuple. -/
inductive Token : Value → Prop where
  | value {s : String} (spelled : Spelled s) : Token (.text s)
  | values {s : String} (spelled : Spelled s) : Token (.list [.text s])
  | tuple {s : String} (spelled : Spelled s) : Token (.tuple [.text s])

/-- A token as it is written: with a list for a tuple. -/
def asWritten : Value → Value
  | .tuple items => .list items
  | v => v

/-! ## The check of tokens -/

theorem spelled_iff {s : String} : isNameToken s = true ↔ Spelled s := by
  rw [isNameToken_iff]
  constructor
  · rintro ⟨nonempty, unmarked⟩
    -- The text is what is left without its last marker, and that marker if there was one.
    have whole := markedName_ofName false s
    rw [ofName_eq, markedName] at whole
    cases required : (splitMarker s).2 with
    | false =>
      rw [required] at whole
      rw [← whole]
      exact .name ⟨nonempty, unmarked⟩
    | true =>
      rw [required] at whole
      rw [← whole]
      exact .required ⟨nonempty, unmarked⟩
  · intro spelled
    cases spelled with
    | name name =>
      rw [splitMarker_of_not_mem name.unmarked]
      exact ⟨name.nonempty, name.unmarked⟩
    | @required front name =>
      rw [splitMarker_push]
      exact ⟨name.nonempty, name.unmarked⟩

/-- **The check accepts the tokens of the grammar** and nothing else. -/
theorem token_iff {v : Value} : isToken v = true ↔ Token v := by
  constructor
  · intro valid
    unfold isToken at valid
    split at valid
    · exact .value (spelled_iff.1 valid)
    · exact .values (spelled_iff.1 valid)
    · exact .tuple (spelled_iff.1 valid)
    · cases valid
  · intro token
    cases token with
    | value spelled => exact spelled_iff.2 spelled
    | values spelled => exact spelled_iff.2 spelled
    | tuple spelled => exact spelled_iff.2 spelled

/-! ## Reading and writing -/

/-- What a token denotes is written as the token. -/
theorem Denotes.token_eq {v : Value} {d : Descriptor} (denotes : Denotes v d) :
    d.token = asWritten v := by
  rcases denotes.written with rfl | ⟨array, rfl⟩
  · unfold token
    split <;> rfl
  · rw [token, if_pos array]
    rfl

/-- **Tokens and descriptors are in bijection.** The check accepts the tokens of the grammar and nothing else.
A token can be read, and what it declares has a name without the marker, is native exactly if the name is that
of a native type, and is written as the token. A descriptor with such a name and such a flag is written as a
token, which is read as this descriptor. So two tokens declare the same exactly if they are written alike. -/
theorem tokens_exact :
    (∀ v, isToken v = true ↔ Token v) ∧
    (∀ v, Token v → ∃ d, ofToken v = .ok d ∧ Name d.name ∧ d.token = asWritten v ∧
      (d.isNative = true ↔ ∃ n : Native, n.name = d.name)) ∧
    (∀ d : Descriptor, Name d.name → (d.isNative = true ↔ ∃ n : Native, n.name = d.name) →
      Token d.token ∧ ofToken d.token = .ok d) ∧
    ∀ v w, Token v → Token w → (ofToken v = ofToken w ↔ asWritten v = asWritten w) := by
  have read {v : Value} (token : Token v) : ∃ d, Denotes v d := by
    obtain ⟨d, reads⟩ := exists_ofToken (token_iff.2 token)
    exact ⟨d, denotes_iff.2 ⟨token_iff.2 token, reads⟩⟩
  have written {d : Descriptor} (name : Name d.name)
      (native : d.isNative = true ↔ ∃ n : Native, n.name = d.name) : Denotes d.token d :=
    ⟨name.nonempty, name.unmarked, native, .inl rfl⟩
  refine ⟨fun v => token_iff, ?_, ?_, ?_⟩
  · intro v token
    obtain ⟨d, denotes⟩ := read token
    exact ⟨d, (denotes_iff.1 denotes).2, ⟨denotes.named, denotes.unmarked⟩, denotes.token_eq, denotes.native⟩
  · intro d name native
    obtain ⟨valid, reads⟩ := denotes_iff.1 (written name native)
    exact ⟨token_iff.1 valid, reads⟩
  · intro v w tokenV tokenW
    obtain ⟨d, denotes⟩ := read tokenV
    obtain ⟨d', denotes'⟩ := read tokenW
    rw [(denotes_iff.1 denotes).2, (denotes_iff.1 denotes').2, ← denotes.token_eq, ← denotes'.token_eq]
    constructor
    · rintro ⟨⟩
      rfl
    · intro same
      -- The descriptors are read from one token.
      have here := (denotes_iff.1 denotes.proper.denotes).2
      rw [same, (denotes_iff.1 denotes'.proper.denotes).2] at here
      exact here.symm

/-- A tuple and a list of one required name declare the same, and a lone marker is no token. -/
theorem tokens_exact_people :
    ofToken (.tuple [.text "Person!"]) = ofToken (.list [.text "Person!"]) ∧
      ¬ Token (.text "!") ∧ ¬ Token (.text "Person!!") := by
  obtain ⟨accepted, -, -, same⟩ := tokens_exact
  have name : Name "Person" := ⟨by decide, by decide⟩
  have spelled : Spelled "Person!" := .required name
  refine ⟨(same _ _ (.tuple spelled) (.values spelled)).2 rfl, ?_, ?_⟩
  · rw [← accepted]
    decide
  · rw [← accepted]
    decide

end Descriptor

end CallTree
