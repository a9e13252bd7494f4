/-
# CallTree.Proofs.Text.Percent — percent-encoding, and that decoding undoes it.

`Encodes` says in which ways a text may be percent-encoded: any character as its octets, with digits in
either case, and any but the percent sign as itself. Whichever way is taken, decoding gives the text back
(`decode_of_encodes`). The octets of several characters may stand beside each other and beside plain
ASCII, and are decoded together; the invariant of the induction is that what has been read so far is a
text as octets.

Blanks at the end of an encoded text stand for themselves, so that cutting them off is the same before
and after decoding (`Encodes.cut`).
-/
import CallTree.Proofs.Text.Utf8
import CallTree.Text.Blank
import CallTree.Text.Percent
import Mathlib.Data.List.Forall2
import Mathlib.Data.List.TakeWhile

namespace CallTree.Text

/-! ## Blanks at the end -/

/-- What is dropped from the end of a list satisfies the predicate. -/
theorem exists_dropEndWhile {α : Type} (p : α → Bool) (xs : List α) :
    ∃ w, xs = dropEndWhile p xs ++ w ∧ ∀ x ∈ w, p x = true := by
  refine ⟨(xs.reverse.takeWhile p).reverse, ?_, ?_⟩
  · rw [dropEndWhile, ← List.reverse_append, List.takeWhile_append_dropWhile, List.reverse_reverse]
  · intro x mem
    exact List.mem_takeWhile_imp (List.mem_reverse.1 mem)

namespace Percent

/-! ## The encoding -/

/-- **The hexadecimal digits** of a number below sixteen, in lower and in upper case. -/
def HexDigit (n : Nat) (c : Char) : Prop :=
  "0123456789abcdef".toList[n]? = some c ∨ "0123456789ABCDEF".toList[n]? = some c

/-- An octet as a percent sign and two digits. -/
inductive EncodedOctet (b : UInt8) : List Char → Prop where
  | digits {high low : Char} (first : HexDigit (b.toNat / 16) high)
      (second : HexDigit (b.toNat % 16) low) : EncodedOctet b ['%', high, low]

/-- **The percent-encodings of a text**: each character stands for itself, unless it is a percent sign,
or is encoded, octet by octet. -/
inductive Encodes : List Char → List Char → Prop where
  | nil : Encodes [] []
  | plain {c : Char} {t p : List Char} (sign : c ≠ '%') (more : Encodes t p) :
      Encodes (c :: t) (c :: p)
  | encoded {c : Char} {t p : List Char} {qs : List (List Char)}
      (octets : List.Forall₂ EncodedOctet (String.utf8EncodeChar c) qs) (more : Encodes t p) :
      Encodes (c :: t) (qs.flatten ++ p)

/-- A digit has the value of its number. -/
theorem HexDigit.value {n : Nat} {c : Char} (h : HexDigit n c) : hexValue? c = some n := by
  have lower : ∀ i : Fin 16, ("0123456789abcdef".toList[i.val]?).bind hexValue? = some i.val := by
    decide
  have upper : ∀ i : Fin 16, ("0123456789ABCDEF".toList[i.val]?).bind hexValue? = some i.val := by
    decide
  obtain h | h := h
  · have small : n < 16 := (List.getElem?_eq_some_iff.1 h).1
    have value := lower ⟨n, small⟩
    rwa [h] at value
  · have small : n < 16 := (List.getElem?_eq_some_iff.1 h).1
    have value := upper ⟨n, small⟩
    rwa [h] at value

/-- A digit is no blank. -/
theorem HexDigit.not_blank {n : Nat} {c : Char} (h : HexDigit n c) : isBlank c = false := by
  -- The digits one by one: a decision over all characters would not end.
  have digits : ("0123456789abcdef".toList ++ "0123456789ABCDEF".toList).all (fun d => !isBlank d) := by
    decide
  rw [← Bool.not_eq_true']
  apply List.all_eq_true.1 digits
  rw [List.mem_append]
  exact h.imp List.mem_of_getElem? List.mem_of_getElem?

/-! ## Decoding -/

/-- An encoded octet is cut off as that octet. -/
theorem EncodedOctet.parts {b : UInt8} {q : List Char} (h : EncodedOctet b q) (rest : List Char) :
    parts (q ++ rest) = .octet b :: parts rest := by
  obtain ⟨first, second⟩ := h
  rename_i high low
  have whole : b.toNat / 16 * 16 + b.toNat % 16 = b.toNat := by omega
  have octet : octet? high low = some b := by
    simp only [octet?, first.value, second.value, whole, UInt8.ofNat_toNat]
  show Percent.parts ('%' :: high :: low :: rest) = _
  rw [Percent.parts, octet]

/-- So are encoded octets. -/
theorem parts_flatten {bs : List UInt8} {qs : List (List Char)} (h : List.Forall₂ EncodedOctet bs qs)
    (rest : List Char) : parts (qs.flatten ++ rest) = bs.map .octet ++ parts rest := by
  induction h with
  | nil => rfl
  | cons first _ ih =>
    rw [List.flatten_cons, List.append_assoc, first.parts, ih]
    rfl

/-- Any other character is cut off by itself. -/
theorem parts_plain {c : Char} (sign : c ≠ '%') (rest : List Char) : parts (c :: rest) =
    (if c.toNat < 0x80 then .octet (UInt8.ofNat c.toNat) else .char c) :: parts rest := by
  rw [parts]
  rintro high low rest' same
  exact absurd same sign

/-- Octets are collected until there is something else. -/
theorem join_octets (run bs : List UInt8) (ps : List Part) :
    join run (bs.map .octet ++ ps) = join (bs.reverse ++ run) ps := by
  induction bs generalizing run with
  | nil => rfl
  | cons b rest ih => simp [join, ih]

/-- Decoding gives the characters of a text from its octets. -/
theorem decodeLossy_encode (t : List Char) :
    Utf8.decodeLossy (t.flatMap String.utf8EncodeChar) = t := by
  rw [Utf8.decodeLossy, Utf8.pieces_encode, List.map_map]
  exact List.map_id'' (fun _ => rfl) t

/-- A character that comes as octets joins the text before it. -/
theorem join_collected (before : List Char) (c : Char) (ps : List Part) :
    join (before.flatMap String.utf8EncodeChar).reverse
      ((String.utf8EncodeChar c).map .octet ++ ps) =
    join ((before ++ [c]).flatMap String.utf8EncodeChar).reverse ps := by
  rw [join_octets, List.flatMap_append, List.reverse_append, List.flatMap_singleton]

/-- Plain ASCII is one octet. -/
theorem encodeChar_ascii {c : Char} (ascii : c.toNat < 0x80) :
    String.utf8EncodeChar c = [UInt8.ofNat c.toNat] := by
  rw [Utf8.encodeChar_eq, if_pos (by omega)]

/-- **Decoding an encoded text** after a text that has been collected as octets. -/
theorem join_of_encodes {t p : List Char} (h : Encodes t p) (before : List Char) :
    join (before.flatMap String.utf8EncodeChar).reverse (parts p) = before ++ t := by
  induction h generalizing before with
  | nil => rw [parts, join, List.reverse_reverse, decodeLossy_encode, List.append_nil]
  | @plain c t p sign more ih =>
    rw [parts_plain sign]
    by_cases ascii : c.toNat < 0x80
    · have joined := join_collected before c (parts p)
      rw [encodeChar_ascii ascii] at joined
      rw [if_pos ascii]
      show join _ ([UInt8.ofNat c.toNat].map .octet ++ parts p) = _
      rw [joined, ih, List.append_assoc]
      rfl
    · -- The character ends the run of octets, and the next one starts empty.
      rw [if_neg ascii, join, List.reverse_reverse, decodeLossy_encode]
      exact congrArg (before ++ c :: ·) (ih [])
  | @encoded c t p qs octets more ih =>
    rw [parts_flatten octets, join_collected, ih, List.append_assoc]
    rfl

/-- **Decoding undoes encoding**, in whichever way a text was encoded. -/
theorem decode_of_encodes {t p : List Char} (h : Encodes t p) :
    decode (String.ofList p) = String.ofList t := by
  have read := join_of_encodes h []
  rw [decode, String.toList_ofList]
  exact congrArg String.ofList read

/-! ## Blanks at the end of an encoded text -/

/-- Encoded octets start with a percent sign and end in a digit. -/
theorem flatten_octets {bs : List UInt8} {qs : List (List Char)} (h : List.Forall₂ EncodedOctet bs qs)
    (some_ : bs ≠ []) : ∃ mid last, qs.flatten = ('%' :: mid) ++ [last] ∧ isBlank last = false := by
  induction h with
  | nil => exact absurd rfl some_
  | @cons b q bs qs first others ih =>
    obtain ⟨-, second⟩ := first
    rename_i high low
    cases bs with
    | nil =>
      cases others
      exact ⟨[high], low, rfl, second.not_blank⟩
    | cons _ _ =>
      obtain ⟨mid, last, whole, digit⟩ := ih (List.cons_ne_nil _ _)
      refine ⟨high :: low :: '%' :: mid, last, ?_, digit⟩
      rw [List.flatten_cons, whole]
      rfl

/-- So does an encoded character. -/
theorem flatten_encoded {c : Char} {qs : List (List Char)}
    (octets : List.Forall₂ EncodedOctet (String.utf8EncodeChar c) qs) :
    ∃ mid last, qs.flatten = ('%' :: mid) ++ [last] ∧ isBlank last = false := by
  apply flatten_octets octets
  have sequence := Utf8.sequence_encode c
  intro none_
  rw [none_] at sequence
  cases sequence

/-- Without percent signs nothing is encoded. -/
theorem Encodes.eq_of_plain {t p : List Char} (h : Encodes t p) (plain : ∀ c ∈ p, c ≠ '%') :
    t = p := by
  induction h with
  | nil => rfl
  | plain _ _ ih => rw [ih fun c mem => plain c (List.mem_cons_of_mem _ mem)]
  | encoded octets _ _ =>
    obtain ⟨mid, last, whole, -⟩ := flatten_encoded octets
    exact absurd rfl (plain '%' (by rw [whole]; exact List.mem_cons_self))

/-- **Blanks at the end of an encoded text stand for themselves.** -/
theorem Encodes.cut {t p : List Char} (h : Encodes t p) {q w : List Char} (parted : p = q ++ w)
    (blank : ∀ c ∈ w, isBlank c = true) : ∃ t', t = t' ++ w ∧ Encodes t' q := by
  induction h generalizing q w with
  | nil =>
    obtain ⟨rfl, rfl⟩ := List.append_eq_nil_iff.1 parted.symm
    exact ⟨[], rfl, .nil⟩
  | @plain c t p sign more ih =>
    cases q with
    | nil =>
      -- Only blanks are left, and no percent sign.
      have whole : c :: t = w := by
        rw [← List.nil_append w, ← parted]
        refine (Encodes.plain sign more).eq_of_plain ?_
        rintro d mem rfl
        rw [parted] at mem
        exact absurd (blank '%' mem) (by decide)
      exact ⟨[], whole, .nil⟩
    | cons d q =>
      obtain ⟨rfl, others⟩ := List.cons.inj parted
      obtain ⟨t', rfl, short⟩ := ih others blank
      exact ⟨c :: t', rfl, .plain sign short⟩
  | @encoded c t p qs octets more ih =>
    rcases List.append_eq_append_iff.1 parted with ⟨a, rfl, others⟩ | ⟨a, whole, rfl⟩
    · obtain ⟨t', rfl, short⟩ := ih others blank
      exact ⟨c :: t', rfl, .encoded octets short⟩
    · -- The end of an encoded character is no blank, so none of it is cut off.
      obtain ⟨mid, last, digits, digit⟩ := flatten_encoded octets
      rcases List.eq_nil_or_concat a with rfl | ⟨a, d, rfl⟩
      · obtain ⟨t', rfl, short⟩ := ih (q := []) rfl blank
        refine ⟨c :: t', rfl, ?_⟩
        have encoded := Encodes.encoded octets short
        rwa [whole, List.append_nil, List.append_nil] at encoded
      · rw [List.concat_eq_append, ← List.append_assoc] at whole
        obtain rfl := List.singleton_inj.1 (List.append_inj_right' (digits.symm.trans whole) rfl)
        rw [blank last (by simp)] at digit
        cases digit

end Percent

end CallTree.Text
