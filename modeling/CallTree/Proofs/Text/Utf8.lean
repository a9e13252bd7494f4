/-
# CallTree.Proofs.Text.Utf8 — which octets are text.

`Sequence` lists the octet sequences of characters, by the table of lead octets. They are the octets
that the core library encodes a character as (`Sequence.encode`, `sequence_encode`), and they are cut
off as that character, whatever follows (`Sequence.pieces`); cutting loses no octets
(`octets_pieces`). So the strict reading accepts exactly the octets of texts, each as the text that
has them (`decode_eq_ok_iff`).
-/
import CallTree.Text.Utf8

namespace CallTree.Text.Utf8

/-- The octets that a piece was cut from. -/
def Piece.octets : Piece → List UInt8
  | .char c => String.utf8EncodeChar c
  | .fault _ octets => octets

/-! ## Lead octets -/

/-- **What a lead octet and the octet after it may be**, by how many octets follow the first. -/
def Leads (count a b : Nat) : Prop :=
  0x80 ≤ b ∧ b < 0xc0 ∧
    (count = 1 ∧ 0xc2 ≤ a ∧ a < 0xe0 ∨
      count = 2 ∧ 0xe0 ≤ a ∧ a < 0xf0 ∧ (a = 0xe0 → 0xa0 ≤ b) ∧ (a = 0xed → b < 0xa0) ∨
      count = 3 ∧ 0xf0 ≤ a ∧ a < 0xf5 ∧ (a = 0xf0 → 0x90 ≤ b) ∧ (a = 0xf4 → b < 0x90))

/-- The table of lead octets says what `Leads` says. -/
theorem leads_of_lead? {a b lo hi : UInt8} {count : Nat} (h : lead? a = some (count, lo, hi))
    (fits : ¬ (b < lo || hi < b) = true) : Leads count a.toNat b.toNat := by
  simp only [Bool.or_eq_true, decide_eq_true_eq, UInt8.lt_iff_toNat_lt] at fits
  simp only [lead?, UInt8.lt_iff_toNat_lt, ← UInt8.toNat_inj, UInt8.reduceToNat] at h
  unfold Leads
  repeat' split at h
  all_goals cases h
  all_goals simp only [UInt8.reduceToNat] at fits; omega

/-- The table has a line for all that leads. -/
theorem Leads.lead? {a b : UInt8} {count : Nat} (h : Leads count a.toNat b.toNat) :
    ∃ lo hi, lead? a = some (count, lo, hi) ∧ (b < lo || hi < b) = false := by
  unfold Leads at h
  simp only [Utf8.lead?, Bool.or_eq_false_iff, decide_eq_false_iff_not, UInt8.lt_iff_toNat_lt,
    ← UInt8.toNat_inj, UInt8.reduceToNat]
  repeat' split
  all_goals try omega
  all_goals refine ⟨_, _, congrArg some (Prod.ext (by omega) rfl), ?_⟩
  all_goals simp only [UInt8.reduceToNat]; omega

theorem lt_ascii_iff {a : UInt8} : a < 0x80 ↔ a.toNat < 0x80 := UInt8.lt_iff_toNat_lt

theorem isTail_iff {b : UInt8} : isTail b = true ↔ 0x80 ≤ b.toNat ∧ b.toNat < 0xc0 := by
  simp only [isTail, Bool.and_eq_true, decide_eq_true_eq, UInt8.le_iff_toNat_le, UInt8.reduceToNat]
  omega

/-! ## Characters -/

/-- **The octet sequences of characters.** -/
inductive Sequence (x : Char) : List UInt8 → Prop where
  | one {a : UInt8} (ascii : a < 0x80) (code : x.toNat = a.toNat) : Sequence x [a]
  | two {a b : UInt8} (lead : Leads 1 a.toNat b.toNat)
      (code : x.toNat = a.toNat % 32 * 64 + tailBits b) : Sequence x [a, b]
  | three {a b c : UInt8} (lead : Leads 2 a.toNat b.toNat) (tail : isTail c = true)
      (code : x.toNat = (a.toNat % 16 * 64 + tailBits b) * 64 + tailBits c) : Sequence x [a, b, c]
  | four {a b c d : UInt8} (lead : Leads 3 a.toNat b.toNat) (tail : isTail c = true)
      (last : isTail d = true)
      (code : x.toNat = ((a.toNat % 8 * 64 + tailBits b) * 64 + tailBits c) * 64 + tailBits d) :
      Sequence x [a, b, c, d]

/-- The encoding of the core library, by the code of the character. -/
theorem encodeChar_eq (x : Char) : String.utf8EncodeChar x =
    if x.toNat ≤ 0x7f then [UInt8.ofNat x.toNat]
    else if x.toNat ≤ 0x7ff then
      [UInt8.ofNat (x.toNat / 64 % 32 + 192), UInt8.ofNat (x.toNat % 64 + 128)]
    else if x.toNat ≤ 0xffff then
      [UInt8.ofNat (x.toNat / 4096 % 16 + 224), UInt8.ofNat (x.toNat / 64 % 64 + 128),
        UInt8.ofNat (x.toNat % 64 + 128)]
    else
      [UInt8.ofNat (x.toNat / 262144 % 8 + 240), UInt8.ofNat (x.toNat / 4096 % 64 + 128),
        UInt8.ofNat (x.toNat / 64 % 64 + 128), UInt8.ofNat (x.toNat % 64 + 128)] := rfl

/-- **A sequence of a character is its encoding.** -/
theorem Sequence.encode {x : Char} {bs : List UInt8} (h : Sequence x bs) :
    String.utf8EncodeChar x = bs := by
  have same {n : Nat} {a : UInt8} (eq : n = a.toNat) : UInt8.ofNat n = a := by
    rw [eq, UInt8.ofNat_toNat]
  rw [encodeChar_eq]
  cases h with
  | one ascii code =>
    rw [lt_ascii_iff] at ascii
    rw [if_pos (by omega), code, UInt8.ofNat_toNat]
  | two lead code =>
    unfold Leads at lead
    unfold tailBits at code
    rw [if_neg (by omega), if_pos (by omega)]
    simp only [List.cons.injEq, and_true]
    exact ⟨same (by omega), same (by omega)⟩
  | three lead tail code =>
    rw [isTail_iff] at tail
    unfold Leads at lead
    unfold tailBits at code
    rw [if_neg (by omega), if_neg (by omega), if_pos (by omega)]
    simp only [List.cons.injEq, and_true]
    exact ⟨same (by omega), same (by omega), same (by omega)⟩
  | four lead tail last code =>
    rw [isTail_iff] at tail last
    unfold Leads at lead
    unfold tailBits at code
    rw [if_neg (by omega), if_neg (by omega), if_neg (by omega)]
    simp only [List.cons.injEq, and_true]
    exact ⟨same (by omega), same (by omega), same (by omega), same (by omega)⟩

/-- **The encoding of a character is a sequence of it.** -/
theorem sequence_encode (x : Char) : Sequence x (String.utf8EncodeChar x) := by
  have valid : x.toNat.isValidChar := x.valid
  unfold Nat.isValidChar at valid
  have octet {n : Nat} (small : n < 256) : (UInt8.ofNat n).toNat = n :=
    UInt8.toNat_ofNat_of_lt' small
  rw [encodeChar_eq]
  -- The code is cut into as many runs of bits as there are octets.
  split
  · exact .one (lt_ascii_iff.2 (by rw [octet] <;> omega)) (octet (by omega)).symm
  · split
    · apply Sequence.two
      · unfold Leads
        rw [octet (by omega), octet (by omega)]
        omega
      · unfold tailBits
        rw [octet (by omega), octet (by omega)]
        omega
    · split
      · apply Sequence.three
        · unfold Leads
          rw [octet (by omega), octet (by omega)]
          omega
        · rw [isTail_iff, octet (by omega)]
          omega
        · unfold tailBits
          rw [octet (by omega), octet (by omega), octet (by omega)]
          omega
      · apply Sequence.four
        · unfold Leads
          rw [octet (by omega), octet (by omega)]
          omega
        · rw [isTail_iff, octet (by omega)]
          omega
        · rw [isTail_iff, octet (by omega)]
          omega
        · unfold tailBits
          rw [octet (by omega), octet (by omega), octet (by omega), octet (by omega)]
          omega

/-- **The octets of a character are cut off as that character**, whatever follows. -/
theorem Sequence.pieces {x : Char} {bs : List UInt8} (h : Sequence x bs) (rest : List UInt8) :
    pieces (bs ++ rest) = .char x :: pieces rest := by
  have leading {a b : UInt8} {count : Nat} (lead : Leads count a.toNat b.toNat) : ¬ a < 0x80 := by
    unfold Leads at lead
    rw [lt_ascii_iff]
    omega
  rw [← Char.ofNat_toNat x]
  cases h with
  | one ascii code =>
    rw [code, List.cons_append, Utf8.pieces, if_pos ascii, List.nil_append]
  | two lead code =>
    obtain ⟨lo, hi, line, fits⟩ := lead.lead?
    rw [code]
    simp [Utf8.pieces, leading lead, line, fits]
  | three lead tail code =>
    obtain ⟨lo, hi, line, fits⟩ := lead.lead?
    rw [code]
    simp [Utf8.pieces, leading lead, line, fits, tail]
  | four lead tail last code =>
    obtain ⟨lo, hi, line, fits⟩ := lead.lead?
    rw [code]
    simp [Utf8.pieces, leading lead, line, fits, tail, last]

/-- A code that is one has a character. -/
theorem toNat_ofNat {n : Nat} (valid : n.isValidChar) : (Char.ofNat n).toNat = n := by
  rw [Char.ofNat, dif_pos valid]
  rfl

/-! ## Texts -/

/-- **Cutting loses no octets.** -/
theorem octets_pieces (bs : List UInt8) : (pieces bs).flatMap Piece.octets = bs := by
  -- Only characters need a look: a fault keeps the octets that it covers.
  have char {x : Char} {bs rest : List UInt8} (h : Sequence x bs)
      (ih : (Utf8.pieces rest).flatMap Piece.octets = rest) :
      (Piece.char x :: Utf8.pieces rest).flatMap Piece.octets = bs ++ rest := by
    rw [List.flatMap_cons, ih, Piece.octets, h.encode]
  fun_induction Utf8.pieces bs with
  | case2 a rest ascii ih =>
    have small := lt_ascii_iff.1 ascii
    exact char (.one ascii (toNat_ofNat (by unfold Nat.isValidChar; omega))) ih
  | case6 a _ lo hi b rest fits line ih =>
    have lead := leads_of_lead? line fits
    refine char (.two lead (toNat_ofNat ?_)) ih
    unfold Leads at lead
    unfold tailBits Nat.isValidChar
    omega
  | case9 a _ lo hi b fits c rest tail line _ ih =>
    have lead := leads_of_lead? line fits
    rw [Bool.not_eq_true, Bool.not_eq_false'] at tail
    refine char (.three lead tail (toNat_ofNat ?_)) ih
    unfold Leads at lead
    unfold tailBits Nat.isValidChar
    omega
  | case12 a _ count lo hi line b fits one c tail two d rest last ih =>
    have lead := leads_of_lead? line fits
    rw [Bool.not_eq_true, Bool.not_eq_false'] at tail last
    obtain rfl : count = 3 := by
      unfold Leads at lead
      omega
    refine char (.four lead tail last (toNat_ofNat ?_)) ih
    unfold Leads at lead
    unfold tailBits Nat.isValidChar
    omega
  | _ => simp_all [Piece.octets]

/-- The pieces of the octets of a text are its characters. -/
theorem pieces_encode (xs : List Char) :
    pieces (xs.flatMap String.utf8EncodeChar) = xs.map .char := by
  induction xs with
  | nil => rw [List.flatMap_nil, pieces, List.map_nil]
  | cons x xs ih => rw [List.flatMap_cons, (sequence_encode x).pieces, ih, List.map_cons]

/-- The strict reading accepts what consists of characters. -/
theorem strict_eq_ok_iff {ps : List Piece} {offset : Nat} {xs : List Char} :
    strict offset ps = .ok xs ↔ ps = xs.map .char := by
  fun_induction strict offset ps generalizing xs with
  | case1 => rw [Except.ok.injEq, eq_comm, @eq_comm _ [], List.map_eq_nil_iff]
  | case2 offset c rest ih =>
    cases xs with
    | nil => cases strict (offset + c.utf8Size) rest <;> simp [Except.map]
    | cons x xs =>
      rw [List.map_cons, List.cons.injEq, ← ih, Piece.char.injEq]
      cases strict (offset + c.utf8Size) rest <;> simp [Except.map]
  | case3 => cases xs <;> simp

/-- **Octets are read as a text exactly if they are the octets of that text.** -/
theorem decode_eq_ok_iff {bs : List UInt8} {s : String} : decode bs = .ok s ↔ bs = encode s := by
  have read : decode bs = .ok s ↔ pieces bs = s.toList.map .char := by
    rw [← @strict_eq_ok_iff _ 0, decode]
    cases strict 0 (pieces bs) with
    | error f => simp [Except.map]
    | ok xs => simp [Except.map, ← String.toList_inj]
  rw [read]
  constructor
  · intro cut
    rw [← octets_pieces bs, cut, encode, List.flatMap_map]
    rfl
  · rintro rfl
    exact pieces_encode s.toList

end CallTree.Text.Utf8
