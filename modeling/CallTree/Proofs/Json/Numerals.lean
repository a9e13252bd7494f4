/-
# CallTree.Proofs.Json.Numerals — numbers are read back from their texts.

An integer is read back from its digits, if there are not too many (`numberText_int`). The digits of a
floating-point number are read back as it, whatever the notation they are laid out in
(`numberText_layout`): the fewest digits that read back are looked for, and there are some of at most
seventeen (`shortest_reads`).
-/
import CallTree.Proofs.Json.Delimited
import CallTree.Proofs.Number.Decimal

namespace CallTree

/-- **A number that there is**: its units are such as a number can have. -/
def Binary64.Genuine : Binary64 → Prop
  | .finite _ units => Representable units
  | _ => True

namespace Json

open Binary64 (ofDecimal)
open Decimal (Digits dataNotation exponentText layout shortest trimmed)
open Reading (natOf)

/-! ## Digits -/

theorem natOf_eq (ds : List Char) : natOf ds = Nat.ofDigitChars 10 ds 0 := by
  have steps (n : Nat) : ds.foldl (fun n c => n * 10 + (c.toNat - 48)) n = Nat.ofDigitChars 10 ds n := by
    induction ds generalizing n with
    | nil => rfl
    | cons d ds ih =>
      rw [List.foldl_cons, ih, Nat.ofDigitChars_cons, Nat.mul_comm n]
      rfl
  exact steps 0

theorem natOf_append (a b : List Char) : natOf (a ++ b) = natOf a * 10 ^ b.length + natOf b := by
  rw [natOf_eq, natOf_eq, natOf_eq, Nat.ofDigitChars_append, Nat.ofDigitChars_eq_ofDigitChars_zero,
    Nat.mul_comm]

theorem natOf_zeros (n : Nat) : natOf (List.replicate n '0') = 0 := by
  rw [natOf_eq, Nat.ofDigitChars_replicate_zero, Nat.mul_zero]

theorem natOf_cons_zero (ds : List Char) : natOf ('0' :: ds) = natOf ds := by
  have parted := natOf_append ['0'] ds
  rw [show natOf ['0'] = 0 from rfl, Nat.zero_mul, Nat.zero_add] at parted
  exact parted

theorem natOf_toDigits (n : Nat) : natOf (Nat.toDigits 10 n) = n := by
  rw [natOf_eq, Nat.ofDigitChars_ten_toDigits]

/-- A number is below the power of ten that its digits count. -/
theorem natOf_lt {ds : List Char} (digits : ∀ c ∈ ds, c.isDigit = true) : natOf ds < 10 ^ ds.length := by
  induction ds with
  | nil => decide
  | cons d ds ih =>
    obtain ⟨first, others⟩ := List.forall_mem_cons.1 digits
    have below := ih others
    have ten : d.toNat - 48 < 10 := by
      have nine : d.toNat ≤ 57 := (Char.isDigit_iff_toNat.1 first).2
      omega
    have here := natOf_append [d] ds
    rw [show natOf [d] = 0 * 10 + (d.toNat - 48) from rfl, Nat.zero_mul, Nat.zero_add,
      List.singleton_append] at here
    rw [here, List.length_cons, Nat.pow_succ]
    calc (d.toNat - 48) * 10 ^ ds.length + natOf ds
        < (d.toNat - 48) * 10 ^ ds.length + 10 ^ ds.length := by omega
      _ = (d.toNat - 48 + 1) * 10 ^ ds.length := by rw [Nat.add_mul, Nat.one_mul]
      _ ≤ 10 ^ ds.length * 10 := by
        rw [Nat.mul_comm]
        exact Nat.mul_le_mul_left _ ten

/-- **Digits that a number may start with**: a zero alone, or digits of which the first one is no zero. -/
inductive Leading : List Char → Prop where
  | zero : Leading ['0']
  | digits {d : Char} {ds : List Char} (other : d ≠ '0') (digits : ∀ c ∈ d :: ds, c.isDigit = true) :
      Leading (d :: ds)

/-- The digits of a number start with no zero. -/
theorem leading_toDigits (n : Nat) : Leading (Nat.toDigits 10 n) := by
  have digits : ∀ c ∈ Nat.toDigits 10 n, c.isDigit = true :=
    fun c mem => Nat.isDigit_of_mem_toDigits (by decide) (by decide) mem
  have first (n : Nat) (some_ : n ≠ 0) : ∃ d ds, Nat.toDigits 10 n = d :: ds ∧ d ≠ '0' := by
    induction n using Nat.strong_induction_on with
    | _ n ih =>
      by_cases small : n < 10
      · have single : ∀ i : Fin 10, i.val ≠ 0 → i.val.digitChar ≠ '0' := by decide
        exact ⟨_, [], Nat.toDigits_of_lt_base small, single ⟨n, small⟩ some_⟩
      · obtain ⟨d, ds, front, other⟩ := ih (n / 10) (by omega) (by omega)
        rw [Nat.toDigits_of_base_le (by decide) (by omega), front]
        exact ⟨d, ds ++ _, rfl, other⟩
  by_cases none_ : n = 0
  · subst none_
    exact .zero
  · obtain ⟨d, ds, same, other⟩ := first n none_
    rw [same] at digits ⊢
    exact .digits other digits

/-- A sign in front of an absolute value. -/
theorem signed (n : Int) : (if decide (n < 0) then -(n.natAbs : Int) else n.natAbs) = n := by
  by_cases negative : n < 0
  · rw [if_pos (decide_eq_true negative)]
    omega
  · rw [if_neg (by simp [negative])]
    omega

/-! ## Reading digits -/

/-- No digit goes on. -/
def Stops (cs : List Char) : Prop := ∀ c rest, cs = c :: rest → c.isDigit = false

theorem stops_cons {c : Char} {rest : List Char} (other : c.isDigit = false) : Stops (c :: rest) := by
  rintro _ _ ⟨⟩
  exact other

/-- What may stand behind a value is no part of a number. -/
theorem Ends.not_plain {cs : List Char} (ends : Ends cs) :
    ∀ c rest, cs = c :: rest → isPlain c = false :=
  fun c rest same => Json.not_plain c (ends c rest same)

theorem Ends.stops {cs : List Char} (ends : Ends cs) : Stops cs := by
  intro c rest same
  cases digit : c.isDigit with
  | false => rfl
  | true =>
    have plain := ends.not_plain c rest same
    rw [isPlain_of_isDigit digit] at plain
    cases plain

theorem spanDigits {ds rest : List Char} (digits : ∀ c ∈ ds, c.isDigit = true) (stops : Stops rest) :
    (ds ++ rest).takeWhile Char.isDigit = ds ∧ (ds ++ rest).dropWhile Char.isDigit = rest := by
  rw [List.takeWhile_append_of_pos digits, List.dropWhile_append_of_pos digits]
  cases rest with
  | nil => simp
  | cons c rest => simp [stops c rest rfl]

theorem wholeDigits_leading {whole rest : List Char} (leading : Leading whole) (stops : Stops rest) :
    wholeDigits (whole ++ rest) = (whole, rest) := by
  cases leading with
  | zero => rfl
  | @digits d ds other digits =>
    obtain ⟨taken, left⟩ := spanDigits digits stops
    unfold wholeDigits
    split
    · rename_i zero
      exact absurd (List.cons.inj zero).1 other
    · rw [taken, left]

theorem fractionDigits_point {fraction rest : List Char} (some_ : fraction ≠ [])
    (digits : ∀ c ∈ fraction, c.isDigit = true) (stops : Stops rest) :
    fractionDigits ('.' :: (fraction ++ rest)) = (fraction, rest) := by
  obtain ⟨d, ds, rfl⟩ := List.exists_cons_of_ne_nil some_
  obtain ⟨first, others⟩ := List.forall_mem_cons.1 digits
  obtain ⟨taken, left⟩ := spanDigits others stops
  rw [List.cons_append, fractionDigits, if_pos first, taken, left]

theorem fractionDigits_none {rest : List Char} (other : ∀ c r, rest = c :: r → c ≠ '.') :
    fractionDigits rest = ([], rest) := by
  unfold fractionDigits
  split
  · exact absurd rfl (other _ _ rfl)
  · rfl

theorem exponentPart_none {rest : List Char} (ends : Ends rest) : exponentPart rest = (none, rest) := by
  have none_ : exponent? rest = none := by
    cases rest with
    | nil => rfl
    | cons c rest =>
      have plain := ends.not_plain c rest rfl
      rw [exponent?, if_neg]
      rw [Bool.or_eq_true, decide_eq_true_eq, decide_eq_true_eq]
      rintro (rfl | rfl) <;> cases plain
  rw [exponentPart, none_]

/-- **An exponent is read back.** -/
theorem exponentPart_text (e : Int) {rest : List Char} (ends : Ends rest) :
    exponentPart ('e' :: (exponentText e ++ rest)) = (some e, rest) := by
  obtain ⟨ds, text, some_, digits, value⟩ :
      ∃ ds, exponentText e = (if e < 0 then '-' else '+') :: ds ∧ ds ≠ [] ∧
        (∀ c ∈ ds, c.isDigit = true) ∧ natOf ds = e.natAbs := by
    refine ⟨_, rfl, ?_, ?_, ?_⟩
    · split
      · exact List.cons_ne_nil _ _
      · exact Nat.toDigits_ne_nil
    · have each : ∀ c ∈ Nat.toDigits 10 e.natAbs, c.isDigit = true :=
        fun c mem => Nat.isDigit_of_mem_toDigits (by decide) (by decide) mem
      split
      · exact List.forall_mem_cons.2 ⟨by decide, each⟩
      · exact each
    · split
      · exact (natOf_cons_zero _).trans (natOf_toDigits _)
      · exact natOf_toDigits _
  obtain ⟨taken, left⟩ := spanDigits digits ends.stops
  have sign : Reading.sign (exponentText e ++ rest) = (decide (e < 0), ds ++ rest) := by
    rw [text]
    by_cases negative : e < 0
    · rw [if_pos negative, decide_eq_true negative]
      rfl
    · rw [if_neg negative, decide_eq_false negative]
      rfl
  have none_ : ((ds ++ rest).takeWhile Char.isDigit).isEmpty = false := by
    rw [taken]
    simpa using some_
  rw [exponentPart, exponent?_cons (by decide) sign, none_, taken, left, value]
  show (some (if decide (e < 0) then -(e.natAbs : Int) else e.natAbs), rest) = _
  rw [signed]

/-! ## Texts of numbers -/

/-- A number with a fraction. -/
theorem numberText_fraction (negative : Bool) {whole fraction left : List Char} (leading : Leading whole)
    (some_ : fraction ≠ []) (digits : ∀ c ∈ fraction, c.isDigit = true) (ends : Ends left) :
    NumberText (minus negative ++ (whole ++ '.' :: (fraction ++ left)))
      (.float (ofDecimal negative (natOf (whole ++ fraction)) (-(fraction.length : Int)))) left := by
  refine .parts (wholeDigits_leading leading (stops_cons (by decide))) ?_
    (fractionDigits_point some_ digits ends.stops) (exponentPart_none ends) ?_
  · cases leading <;> exact List.cons_ne_nil _ _
  · rw [numberValue, if_neg]
    rwa [List.isEmpty_iff]

/-- A point and digits, or nothing. -/
def pointed (fraction : List Char) : List Char := if fraction.isEmpty then [] else '.' :: fraction

/-- A number with an exponent. -/
theorem numberText_exponent (negative : Bool) {whole fraction left : List Char} (leading : Leading whole)
    (digits : ∀ c ∈ fraction, c.isDigit = true) (e : Int) (ends : Ends left) :
    NumberText (minus negative ++ (whole ++ (pointed fraction ++ 'e' :: (exponentText e ++ left))))
      (.float (ofDecimal negative (natOf (whole ++ fraction)) (e - fraction.length))) left := by
  have some_ : whole ≠ [] := by cases leading <;> exact List.cons_ne_nil _ _
  have exponent := exponentPart_text e ends
  cases fraction with
  | nil =>
    exact .parts (wholeDigits_leading leading (stops_cons (by decide))) some_
      (fractionDigits_none (by rintro _ _ ⟨⟩; decide)) exponent rfl
  | cons d ds =>
    exact .parts (wholeDigits_leading leading (stops_cons (by decide))) some_
      (fractionDigits_point (List.cons_ne_nil d ds) digits (stops_cons (by decide))) exponent rfl

/-- **An integer is read back** from its text, if it has not too many digits. -/
theorem numberText_int {n : Int} (few : Decimal.Short n)
    {left : List Char} (ends : Ends left) : NumberText ((toString n).toList ++ left) (.int n) left := by
  have text : (toString n).toList = minus (decide (n < 0)) ++ Nat.toDigits 10 n.natAbs := by
    show n.repr.toList = _
    cases n with
    | ofNat m => exact Nat.toList_repr
    | negSucc m =>
      show ("-" ++ m.succ.repr).toList = _
      rw [String.toList_append, Nat.toList_repr, decide_eq_true (Int.negSucc_lt_zero m)]
      rfl
  rw [text, List.append_assoc]
  refine .parts (wholeDigits_leading (leading_toDigits _) ends.stops) Nat.toDigits_ne_nil
    (fractionDigits_none ?_) (exponentPart_none ends) ?_
  · intro c rest same
    have plain := ends.not_plain c rest same
    rintro rfl
    cases plain
  · have read : Reading.natUpToLimit (Nat.toDigits 10 n.natAbs) = .ok n.natAbs := by
      have short : ¬ Decimal.digitLimit < (Nat.toDigits 10 n.natAbs).length := Nat.not_lt.2 few
      rw [Reading.natUpToLimit, if_neg short, natOf_toDigits]
    simp only [numberValue, List.isEmpty_nil, if_true, read, signed]

/-! ## Layouts of digits -/

section Layouts

theorem digits_zeros (n : Nat) : ∀ x ∈ List.replicate n '0', x.isDigit = true := by
  intro x mem
  rw [List.eq_of_mem_replicate mem]
  decide

variable (negative : Bool) {c : Char} {cs left : List Char}

/-- All digits stand behind the point, with zeros in front of them. -/
theorem numberText_behind (digits : ∀ x ∈ c :: cs, x.isDigit = true) (n : Nat) (ends : Ends left) :
    NumberText (minus negative ++ (['0'] ++ '.' :: (List.replicate n '0' ++ c :: cs ++ left)))
      (.float (ofDecimal negative (natOf (c :: cs)) (-n - (c :: cs).length))) left := by
  have value : natOf (['0'] ++ (List.replicate n '0' ++ c :: cs)) = natOf (c :: cs) := by
    rw [List.singleton_append, natOf_cons_zero, natOf_append, natOf_zeros, Nat.zero_mul, Nat.zero_add]
  have exponent : -((List.replicate n '0' ++ c :: cs).length : Int) = -n - (c :: cs).length := by
    rw [List.length_append, List.length_replicate]
    omega
  have text := numberText_fraction negative .zero (by simp)
    (List.forall_mem_append.2 ⟨digits_zeros n, digits⟩) ends
  rwa [value, exponent] at text

/-- All digits stand in front of the point, with zeros behind them. -/
theorem numberText_before (other : c ≠ '0') (digits : ∀ x ∈ c :: cs, x.isDigit = true) (n : Nat)
    (ends : Ends left) :
    NumberText (minus negative ++ ((c :: cs ++ List.replicate n '0') ++ '.' :: (['0'] ++ left)))
      (.float (ofDecimal negative (natOf (c :: cs)) n)) left := by
  have padded : Leading (c :: cs ++ List.replicate n '0') :=
    .digits other (List.forall_mem_append.2 ⟨digits, digits_zeros n⟩)
  have all : natOf (c :: cs ++ List.replicate n '0' ++ ['0']) = natOf (c :: cs) * 10 ^ (n + 1) := by
    rw [List.append_assoc, ← List.replicate_succ', natOf_append, natOf_zeros, List.length_replicate,
      Nat.add_zero]
  have exponent : -(['0'].length : Int) + ((n + 1 : Nat) : Int) = n := by
    rw [List.length_singleton]
    omega
  have text := numberText_fraction negative padded (List.cons_ne_nil '0' [])
    (List.forall_mem_singleton.2 (by decide)) ends
  rwa [all, Binary64.ofDecimal_zeros, exponent] at text

/-- What is taken from the front of digits starts as they do. -/
theorem leading_take (other : c ≠ '0') (digits : ∀ x ∈ c :: cs, x.isDigit = true) (n : Nat) :
    Leading ((c :: cs).take (n + 1)) := by
  rw [List.take_succ_cons]
  refine .digits other fun x mem => digits x ?_
  rw [← List.take_succ_cons] at mem
  exact List.mem_of_mem_take mem

/-- The point stands among the digits. -/
theorem numberText_among (other : c ≠ '0') (digits : ∀ x ∈ c :: cs, x.isDigit = true) {n : Nat}
    (few : n + 1 < (c :: cs).length) (ends : Ends left) :
    NumberText (minus negative ++ ((c :: cs).take (n + 1) ++ '.' :: ((c :: cs).drop (n + 1) ++ left)))
      (.float (ofDecimal negative (natOf (c :: cs)) ((n + 1 : Nat) - (c :: cs).length))) left := by
  have rest : ((c :: cs).drop (n + 1)).length = (c :: cs).length - (n + 1) := List.length_drop
  have some_ : (c :: cs).drop (n + 1) ≠ [] := by
    rw [← List.length_pos_iff, rest]
    omega
  have exponent : -(((c :: cs).drop (n + 1)).length : Int) = (n + 1 : Nat) - (c :: cs).length := by
    rw [rest]
    omega
  have text := numberText_fraction negative (leading_take other digits n) some_
    (fun x mem => digits x (List.mem_of_mem_drop mem)) ends
  rwa [List.take_append_drop, exponent] at text

/-- One digit stands in front of the point, and the exponent behind the others. -/
theorem numberText_scientific (other : c ≠ '0') (digits : ∀ x ∈ c :: cs, x.isDigit = true) (place : Int)
    (ends : Ends left) :
    NumberText (minus negative ++ ([c] ++ (pointed cs ++ 'e' :: (exponentText (place - 1) ++ left))))
      (.float (ofDecimal negative (natOf (c :: cs)) (place - (c :: cs).length))) left := by
  have exponent : place - 1 - (cs.length : Int) = place - (c :: cs).length := by
    rw [List.length_cons]
    omega
  have text := numberText_exponent negative (leading_take other digits 0)
    (List.forall_mem_cons.1 digits).2 (place - 1) ends
  rwa [exponent] at text

/-- **Digits are read back** however they are laid out. -/
theorem numberText_layout (place : Int) (other : c ≠ '0') (digits : ∀ x ∈ c :: cs, x.isDigit = true)
    (ends : Ends left) :
    NumberText (minus negative ++ (layout dataNotation ⟨c :: cs, place⟩ ++ left))
      (.float (ofDecimal negative (natOf (c :: cs)) (place - (c :: cs).length))) left := by
  unfold layout
  dsimp only
  split
  · split
    · obtain ⟨n, rfl⟩ : ∃ n : Nat, place = -n := ⟨(-place).toNat, by omega⟩
      rw [Int.neg_neg, Int.toNat_natCast]
      have text := numberText_behind negative digits n ends
      simpa using text
    · obtain ⟨n, rfl⟩ : ∃ n : Nat, place = (n + 1 : Nat) := ⟨(place - 1).toNat, by omega⟩
      rw [Int.toNat_natCast]
      by_cases short : (c :: cs).length ≤ n + 1
      · obtain ⟨k, missing⟩ : ∃ k, n + 1 = (c :: cs).length + k := Nat.exists_eq_add_of_le short
        rw [List.take_of_length_le short, List.drop_of_length_le short, missing, Nat.add_sub_cancel_left]
        have text := numberText_before negative other digits k ends
        have exponent : (((c :: cs).length + k : Nat) : Int) - (c :: cs).length = k := by omega
        rw [exponent]
        simpa [dataNotation] using text
      · have text := numberText_among negative other digits (Nat.lt_of_not_le short) ends
        have some_ : (c :: cs).drop (n + 1) ≠ [] := by
          rw [← List.length_pos_iff, List.length_drop]
          omega
        rw [List.length_take_of_le (by omega), Nat.sub_self, List.replicate_zero, List.append_nil,
          if_neg (by simpa using some_)]
        simpa using text
  · have point : (if (c :: cs).length ≤ 1 then [] else '.' :: (c :: cs).drop 1) = pointed cs := by
      unfold pointed
      cases cs <;> simp
    rw [point]
    have text := numberText_scientific negative other digits place ends
    simpa using text

end Layouts

/-! ## Floating-point numbers -/

/-- Digits without the zeros at their end. -/
theorem trimmed_eq {n : Nat} (some_ : n ≠ 0) (power : Int) : ∃ c cs, ∃ zeros : Nat,
    trimmed n power = ⟨c :: cs, (c :: cs).length + zeros + power⟩ ∧ c ≠ '0' ∧
      (∀ x ∈ c :: cs, x.isDigit = true) ∧ natOf (c :: cs) * 10 ^ zeros = n := by
  have value := natOf_toDigits n
  have leading := leading_toDigits n
  obtain ⟨w, whole, blank⟩ := Text.exists_dropEndWhile (fun c => decide (c = '0')) (Nat.toDigits 10 n)
  have zeros : w = List.replicate w.length '0' :=
    List.eq_replicate_iff.2 ⟨rfl, fun c mem => of_decide_eq_true (blank c mem)⟩
  have digits : (trimmed n power).digits =
      Text.dropEndWhile (fun c => decide (c = '0')) (Nat.toDigits 10 n) := rfl
  have place : (trimmed n power).place = (Nat.toDigits 10 n).length + power := rfl
  rw [← digits, zeros] at whole
  rw [whole] at place value leading
  generalize trimmed n power = d at digits place value leading
  obtain ⟨ds, at_⟩ := d
  cases ds with
  | nil =>
    rw [List.nil_append, natOf_zeros] at value
    exact absurd value.symm some_
  | cons c cs =>
    obtain ⟨other, all⟩ : c ≠ '0' ∧ ∀ x ∈ c :: cs ++ List.replicate w.length '0', x.isDigit = true := by
      generalize List.replicate w.length '0' = more at leading value
      rw [List.cons_append] at leading value ⊢
      generalize rest : cs ++ more = ds at leading value ⊢
      cases leading with
      | zero => exact absurd value.symm some_
      | digits other digits => exact ⟨other, digits⟩
    refine ⟨c, cs, w.length, ?_, other, (List.forall_mem_append.1 all).1, ?_⟩
    · rw [show at_ = _ from place, List.length_append, List.length_replicate]
      rfl
    · rw [natOf_append, natOf_zeros, List.length_replicate, Nat.add_zero] at value
      exact value

/-- **The shortest digits of a number read back as it.** -/
theorem shortest_reads {units : Nat} (representable : Binary64.Representable units) (some_ : units ≠ 0) :
    ∃ n power, shortest units = trimmed n power ∧ ofDecimal false n power = .finite false units := by
  rw [shortest_def]
  beta_reduce
  split
  · rename_i d found
    obtain ⟨i, -, reads⟩ := List.exists_of_findSome?_eq_some found
    rw [Decimal.readsBack?_eq rfl, Option.map_eq_some_iff] at reads
    obtain ⟨n, first, same⟩ := reads
    have read := List.find?_some first
    exact ⟨n, _, same.symm, of_decide_eq_true read⟩
  · rename_i none_
    obtain ⟨d, reads⟩ := Decimal.readsBack?_seventeen representable some_
    have absent := List.findSome?_eq_none_iff.1 none_ 16 (by decide)
    rw [reads] at absent
    cases absent

/-- **A finite number is read back** from its text. -/
theorem numberText_finite (negative : Bool) {units : Nat} (representable : Binary64.Representable units)
    {left : List Char} (ends : Ends left) :
    NumberText ((Decimal.document (.finite negative units)).toList ++ left) (.float (.finite negative units))
      left := by
  have text : (Decimal.document (.finite negative units)).toList = minus negative ++
      (if units = 0 then layout dataNotation ⟨['0'], 1⟩ else layout dataNotation (shortest units)) := by
    show (String.ofList _).toList = _
    rw [String.toList_ofList]
    cases negative <;> rfl
  rw [text, List.append_assoc]
  by_cases none_ : units = 0
  · subst none_
    exact numberText_fraction negative .zero (List.cons_ne_nil '0' [])
      (List.forall_mem_singleton.2 (by decide)) ends
  · rw [if_neg none_]
    obtain ⟨n, power, digits, read⟩ := shortest_reads representable none_
    have some_ : n ≠ 0 := by
      rintro rfl
      cases read
      exact none_ rfl
    obtain ⟨c, cs, zeros, same, other, all, value⟩ := trimmed_eq some_ power
    have layout_ := numberText_layout negative ((c :: cs).length + zeros + power) other all ends
    -- What the digits are read as is what they are chosen for.
    have exponent : ((c :: cs).length : Int) + zeros + power - (c :: cs).length = power + zeros := by omega
    rw [exponent, ← Binary64.ofDecimal_zeros, value, Binary64.ofDecimal_sign read] at layout_
    rw [digits, same]
    exact layout_

/-- **A floating-point number is read back** from its text. -/
theorem derives_float {x : Binary64} (genuine : x.Genuine) {left : List Char} (ends : Ends left) :
    Derives (.value (.float x)) ((Decimal.document x).toList ++ left) left := by
  cases x with
  | nan => exact .word (w := "NaN") (by simp [words])
  | infinite negative =>
    cases negative with
    | false => exact .word (w := "Infinity") (by simp [words])
    | true => exact .word (w := "-Infinity") (by simp [words])
  | finite negative units => exact .number (numberText_finite negative genuine ends).read

/-- **An integer is read back** from its text, if it has not too many digits. -/
theorem derives_int {n : Int} (few : Decimal.Short n) {left : List Char} (ends : Ends left) : Derives (.value (.int n)) ((toString n).toList ++ left) left :=
  .number (numberText_int few ends).read

end Json

end CallTree
