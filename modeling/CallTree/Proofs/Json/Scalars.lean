/-
# CallTree.Proofs.Json.Scalars — texts of strings, words and numbers.

A string has its text for itself: its escapes are read back, by code or by name, and its closing quote is
where it ends (`quoted_append_inj`). The text of a word or a number, however it is laid out, has characters
of which none could stand around it (`Bare`).
-/
import CallTree.Json.Printer
import CallTree.Proofs.Json.Extent

namespace CallTree.Json

open Text.Quoted (hex)

/-! ## Strings -/

/-- The digits of a code, from the last one on. -/
theorem hex_succ {width : Nat} (some_ : 0 < width) (n : Nat) :
    hex (width + 1) n = hex width (n / 16) ++ [(n % 16).digitChar] := by
  by_cases small : n < 16
  · have front : n / 16 = 0 := by omega
    obtain ⟨width, rfl⟩ := Nat.exists_eq_succ_of_ne_zero (Nat.pos_iff_ne_zero.1 some_)
    simp [hex, Nat.toDigits_of_lt_base small, front, Nat.mod_eq_of_lt small, List.replicate_succ']
  · have digits := Nat.toDigits_of_base_le (b := 16) (by decide) (Nat.not_lt.1 small)
    simp [hex, digits]

theorem hexValue?_digitChar {d : Nat} (small : d < 16) :
    Text.Percent.hexValue? d.digitChar = some d := by
  have all : ∀ i : Fin 16, Text.Percent.hexValue? i.val.digitChar = some i.val := by decide
  exact all ⟨d, small⟩

/-- **A code is read** from its four digits, before anything. -/
theorem hexCode?_hex {n : Nat} (small : n < 0x10000) {l : List Char} (some_ : l ≠ []) :
    hexCode? (hex 4 n ++ l) = some (n, l) := by
  have first : hex 1 (n / 16 / 16 / 16) = [(n / 16 / 16 / 16).digitChar] := by
    have low : n / 16 / 16 / 16 < 16 := by omega
    simp [hex, Nat.toDigits_of_lt_base low]
  have digits : hex 4 n = [(n / 16 / 16 / 16).digitChar, (n / 16 / 16 % 16).digitChar,
      (n / 16 % 16).digitChar, (n % 16).digitChar] := by
    rw [hex_succ (by decide), hex_succ (by decide), hex_succ (by decide), first]
    rfl
  obtain ⟨e, rest, rfl⟩ := List.exists_cons_of_ne_nil some_
  rw [digits]
  simp only [List.cons_append, List.nil_append, hexCode?]
  rw [hexValue?_digitChar (by omega), hexValue?_digitChar (by omega), hexValue?_digitChar (by omega),
    hexValue?_digitChar (by omega)]
  simp only [Option.some.injEq, Prod.mk.injEq, and_true]
  omega

/-- No character is a half of a pair. -/
theorem not_half (c : Char) : isHighHalf c.toNat = false ∧ isLowHalf c.toNat = false := by
  have valid : c.toNat < 0xd800 ∨ 0xdfff < c.toNat ∧ c.toNat < 0x110000 := c.valid
  simp only [isHighHalf, isLowHalf, Bool.and_eq_false_iff, decide_eq_false_iff_not]
  omega

/-- The escape of a character by its code. -/
theorem unicodeEscape_hex {c : Char} (small : c.toNat < 0x10000) {l : List Char} (some_ : l ≠ []) :
    unicodeEscape (hex 4 c.toNat ++ l) = .ok (c, l) := by
  have alone := unicodeEscape_alone (hexCode?_hex small some_) (by simp [(not_half c).1])
  rw [alone, codeChar, (not_half c).1, (not_half c).2]
  simp

/-- The escape of a character by a pair of codes. -/
theorem unicodeEscape_hexPair {n : Nat} (small : n < 0x100000) {l : List Char} (some_ : l ≠ []) :
    unicodeEscape (hex 4 (0xd800 + n / 0x400) ++ '\\' :: 'u' :: (hex 4 (0xdc00 + n % 0x400) ++ l)) =
      .ok (Char.ofNat (0x10000 + n), l) := by
  have high := @hexCode?_hex (0xd800 + n / 0x400) (by omega)
    ('\\' :: 'u' :: (hex 4 (0xdc00 + n % 0x400) ++ l)) (List.cons_ne_nil _ _)
  have low := @hexCode?_hex (0xdc00 + n % 0x400) (by omega) l some_
  have first : isHighHalf (0xd800 + n / 0x400) = true := by
    simp only [isHighHalf, Bool.and_eq_true, decide_eq_true_eq]
    omega
  have second : isLowHalf (0xdc00 + n % 0x400) = true := by
    simp only [isLowHalf, Bool.and_eq_true, decide_eq_true_eq]
    omega
  have code : 0x10000 + (0xd800 + n / 0x400 - 0xd800) * 0x400 + (0xdc00 + n % 0x400 - 0xdc00) =
      0x10000 + n := by omega
  rw [unicodeEscape_pair high first low second, code]

theorem codeEscape_append (n : Nat) (l : List Char) :
    codeEscape n ++ l = '\\' :: 'u' :: (hex 4 n ++ l) := rfl

/-- **A character is read back** from how it stands in a string. -/
theorem stringText_stringChar (escapes : Bool) (c : Char) {cs ds left : List Char}
    (more : StringText cs ds left) (some_ : cs ≠ []) :
    StringText (stringChar escapes c ++ cs) (c :: ds) left := by
  have coded (small : c.toNat < 0x10000) : StringText (codeEscape c.toNat ++ cs) (c :: ds) left :=
    .code (unicodeEscape_hex small some_) more
  have same {n : Nat} (code : c.toNat = n) : c = Char.ofNat n := by rw [← code, Char.ofNat_toNat]
  unfold stringChar
  split_ifs with mark newline carriage tab bell feed low wide small
  · simp only [Bool.or_eq_true, decide_eq_true_eq] at mark
    rcases mark with rfl | rfl <;> exact .escape rfl more
  · subst newline
    exact .escape rfl more
  · subst carriage
    exact .escape rfl more
  · subst tab
    exact .escape rfl more
  · rw [same bell]
    exact .escape rfl more
  · rw [same feed]
    exact .escape rfl more
  · exact coded (by omega)
  · exact coded small
  · have valid : c.toNat < 0xd800 ∨ 0xdfff < c.toNat ∧ c.toNat < 0x110000 := c.valid
    have code : c = Char.ofNat (0x10000 + (c.toNat - 0x10000)) := same (by omega)
    have pair := @unicodeEscape_hexPair (c.toNat - 0x10000) (by omega) cs some_
    rw [← code] at pair
    rw [List.append_assoc, codeEscape_append, codeEscape_append]
    exact .code pair more
  · simp only [Bool.or_eq_true, decide_eq_true_eq, not_or] at mark
    exact .plain mark.1 mark.2 (by omega) more

/-- **A string is read back** from its text. -/
theorem stringText_quoted (escapes : Bool) (s left : List Char) :
    StringText (s.flatMap (stringChar escapes) ++ '\x22' :: left) s left := by
  induction s with
  | nil => exact .close left
  | cons c rest ih =>
    rw [List.flatMap_cons, List.append_assoc]
    exact stringText_stringChar escapes c ih (by simp)

theorem toList_quoted (escapes : Bool) (s : String) :
    (quoted escapes s).toList = '\x22' :: (s.toList.flatMap (stringChar escapes) ++ ['\x22']) := by
  rw [quoted, String.toList_ofList, List.cons_append]

/-- **Texts of strings** end where they end, and strings are equal if their texts are. -/
theorem quoted_append_inj {escapes : Bool} {s t : String} {x y : List Char}
    (same : (quoted escapes s).toList ++ x = (quoted escapes t).toList ++ y) : s = t ∧ x = y := by
  simp only [toList_quoted, List.cons_append, List.append_assoc, List.nil_append, List.cons.injEq,
    true_and] at same
  have one := string_eq_ok_iff.2 (stringText_quoted escapes s.toList x)
  rw [same, string_eq_ok_iff.2 (stringText_quoted escapes t.toList y)] at one
  cases one
  exact ⟨rfl, rfl⟩

/-! ## Words and numbers -/

/-- Whether a character may stand in a word or a number. -/
def isPlain (c : Char) : Bool := c.isAlphanum || c = '-' || c = '+' || c = '.'

/-- **The text of a word or a number**: it has characters, and none that could stand around it. -/
structure Bare (cs : List Char) : Prop where
  some : cs ≠ []
  plain : ∀ c ∈ cs, isPlain c = true

theorem bare_of_all {cs : List Char} (some_ : cs ≠ []) (plain : cs.all isPlain = true) : Bare cs :=
  ⟨some_, List.all_eq_true.1 plain⟩

theorem Bare.append {cs ds : List Char} (front : Bare cs) (plain : ∀ c ∈ ds, isPlain c = true) :
    Bare (cs ++ ds) := by
  refine ⟨by simp [front.some], fun c mem => ?_⟩
  rcases List.mem_append.1 mem with before | behind
  · exact front.plain c before
  · exact plain c behind

theorem isPlain_of_isDigit {c : Char} (digit : c.isDigit = true) : isPlain c = true := by
  simp [isPlain, Char.isAlphanum, digit]

theorem isPlain_of_mem_toDigits {n : Nat} {c : Char} (mem : c ∈ Nat.toDigits 10 n) :
    isPlain c = true :=
  isPlain_of_isDigit (Nat.isDigit_of_mem_toDigits (by decide) (by decide) mem)

theorem bare_toDigits (n : Nat) : Bare (Nat.toDigits 10 n) :=
  ⟨Nat.toDigits_ne_nil, fun _ mem => isPlain_of_mem_toDigits mem⟩

theorem bare_int (n : Int) : Bare (toString n).toList := by
  show Bare n.repr.toList
  cases n with
  | ofNat m =>
    show Bare m.repr.toList
    rw [Nat.toList_repr]
    exact bare_toDigits m
  | negSucc m =>
    show Bare ("-" ++ m.succ.repr).toList
    rw [String.toList_append, Nat.toList_repr]
    exact Bare.append (bare_of_all (by decide) rfl) (bare_toDigits _).plain

/-- How digits are chosen. -/
theorem shortest_def : Decimal.shortest = fun units =>
    match (List.range 17).findSome? fun i => Decimal.readsBack? units (i + 1) with
    | some d => d
    | none => Decimal.trimmed ((Decimal.neighbours units (Decimal.placeOf units - 17)).headD 0)
        (Decimal.placeOf units - 17) := rfl

/-- Digits that are chosen for a number are those of a whole number, without zeros at the end. -/
theorem exists_trimmed (units : Nat) :
    ∃ count power, Decimal.shortest units = Decimal.trimmed count power := by
  -- Applied to a number, the definition cannot be unfolded: what it looks for would be computed.
  rw [shortest_def]
  beta_reduce
  split
  · rename_i d found
    obtain ⟨i, -, reads⟩ := List.exists_of_findSome?_eq_some found
    simp only [Decimal.readsBack?, Option.map_eq_some_iff] at reads
    obtain ⟨count, -, same⟩ := reads
    exact ⟨count, _, same.symm⟩
  · exact ⟨_, _, rfl⟩

theorem isPlain_of_mem_shortest (units : Nat) :
    ∀ c ∈ (Decimal.shortest units).digits, isPlain c = true := by
  intro c mem
  obtain ⟨count, power, same⟩ := exists_trimmed units
  rw [same] at mem
  have inside := (List.dropWhile_sublist _).subset (List.mem_reverse.1 mem)
  exact isPlain_of_mem_toDigits (List.mem_reverse.1 inside)

theorem isPlain_of_mem_exponentText {e : Int} {c : Char} (mem : c ∈ Decimal.exponentText e) :
    isPlain c = true := by
  have digits : ∀ c ∈ Nat.toDigits 10 e.natAbs, isPlain c = true := fun _ => isPlain_of_mem_toDigits
  unfold Decimal.exponentText at mem
  rcases List.mem_cons.1 mem with rfl | behind
  · split <;> decide
  · split at behind
    · rcases List.mem_cons.1 behind with rfl | digit
      · decide
      · exact digits c digit
    · exact digits c behind

/-- However digits are laid out, the text is that of a number. -/
theorem bare_layout (form : Decimal.Notation) {d : Decimal.Digits}
    (digits : ∀ c ∈ d.digits, isPlain c = true) : Bare (Decimal.layout form d) := by
  have zeros (n : Nat) : ∀ c ∈ List.replicate n '0', isPlain c = true := by
    intro c mem
    rw [List.eq_of_mem_replicate mem]
    decide
  have taken (n : Nat) : ∀ c ∈ d.digits.take n, isPlain c = true :=
    fun c mem => digits c (List.mem_of_mem_take mem)
  have dropped (n : Nat) : ∀ c ∈ d.digits.drop n, isPlain c = true :=
    fun c mem => digits c (List.mem_of_mem_drop mem)
  have mark : isPlain '.' = true ∧ isPlain '0' = true ∧ isPlain 'e' = true := by decide
  have exponent : ∀ c ∈ Decimal.exponentText (d.place - 1), isPlain c = true :=
    fun _ => isPlain_of_mem_exponentText
  unfold Decimal.layout
  split
  · split
    · refine ⟨by simp, ?_⟩
      simp only [List.forall_mem_append, List.forall_mem_cons]
      exact ⟨⟨mark.2.1, mark.1, zeros _⟩, digits⟩
    · rename_i positive
      constructor
      · -- There are as many places before the point as the place of the point says, and that is positive.
        intro none
        have lengths := congrArg List.length none
        simp only [List.length_append, List.length_replicate, List.length_nil] at lengths
        omega
      · simp only [List.forall_mem_append]
        refine ⟨⟨taken _, zeros _⟩, ?_⟩
        split_ifs
        · simp [mark]
        · exact nofun
        · rw [List.forall_mem_cons]
          exact ⟨mark.1, dropped _⟩
  · refine ⟨by simp, ?_⟩
    simp only [List.forall_mem_append, List.forall_mem_cons]
    refine ⟨⟨taken 1, ?_⟩, mark.2.2, exponent⟩
    split_ifs
    · exact nofun
    · rw [List.forall_mem_cons]
      exact ⟨mark.1, dropped 1⟩

theorem bare_finite {choose : Nat → Decimal.Digits}
    (digits : ∀ units, ∀ c ∈ (choose units).digits, isPlain c = true) (form : Decimal.Notation)
    (infinity noNumber : String) (negative : Bool) (units : Nat) :
    Bare (Decimal.text choose form infinity noNumber (.finite negative units)).toList := by
  have body : Bare (if units = 0 then Decimal.layout form ⟨['0'], 1⟩
      else Decimal.layout form (choose units)) := by
    split
    · exact bare_layout form (List.all_eq_true.1 rfl)
    · exact bare_layout form (digits units)
  unfold Decimal.text
  simp only [String.toList_ofList]
  cases negative with
  | false => exact body
  | true => exact @Bare.append ['-'] _ (bare_of_all (by decide) rfl) body.plain

theorem bare_document (x : Binary64) : Bare (Decimal.document x).toList := by
  cases x with
  | nan => exact bare_of_all (by decide) (by decide)
  | infinite negative => cases negative <;> exact bare_of_all (by decide) (by decide)
  | finite negative units =>
    exact bare_finite isPlain_of_mem_shortest Decimal.dataNotation "Infinity" "NaN" negative units

end CallTree.Json
