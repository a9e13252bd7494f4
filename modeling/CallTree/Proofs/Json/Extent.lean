/-
# CallTree.Proofs.Json.Extent — how much of a text a document takes.

The reader of documents takes some text off the front and leaves the rest. It looks ahead here and there:
a number goes on while there are digits, and an escape may be the first half of a pair. But what it looked
at and left it did not need: with less of that it reads the same (`Derives.stable`). What it takes starts
with no blank and no percent sign (`Derives.opening`) and does not end in a blank. Therefore the blanks
around a document are nothing but layout and may be cut off (`Document.strip`), and no document starts as
an encoded text does (`Document.head_ne`).
-/
import CallTree.Proofs.Json.Reader
import CallTree.Proofs.Text.Percent

namespace CallTree.Json

/-! ## Taking text off the front -/

/-- A part of a text that does not end in a blank. -/
def Closed (eaten : List Char) : Prop :=
  ∃ init c, eaten = init ++ [c] ∧ Text.isBlank c = false

theorem Closed.append {eaten : List Char} (h : Closed eaten) (before : List Char) :
    Closed (before ++ eaten) := by
  obtain ⟨init, c, rfl, visible⟩ := h
  exact ⟨before ++ init, c, (List.append_assoc ..).symm, visible⟩

theorem Closed.cons {eaten : List Char} (h : Closed eaten) (c : Char) : Closed (c :: eaten) :=
  h.append [c]

/-- **Reading does not depend on what is left**: with less left it reads the same. -/
def Extent (reads : List Char → List Char → Prop) (eaten left : List Char) : Prop :=
  ∀ l, l <+: left → reads (eaten ++ l) l

/-- Less may be left after something more has been read. -/
theorem prefix_append {l left : List Char} (h : l <+: left) (eaten : List Char) :
    eaten ++ l <+: eaten ++ left :=
  (List.prefix_append_right_inj eaten).2 h

/-- **A reading is stable**: what it takes off the text does not end in a blank, and does not depend on
what is left. -/
def Stable (reads : List Char → List Char → Prop) (cs left : List Char) : Prop :=
  ∃ eaten, cs = eaten ++ left ∧ Closed eaten ∧ Extent reads eaten left

section

variable {reads reads' : List Char → List Char → Prop} {cs mid left : List Char}

theorem Stable.mono (h : Stable reads cs left) (weaker : ∀ text l, reads text l → reads' text l) :
    Stable reads' cs left := by
  obtain ⟨eaten, rfl, closed, same⟩ := h
  exact ⟨eaten, rfl, closed, fun l shorter => weaker _ _ (same l shorter)⟩

/-- A character more in front. -/
theorem Stable.cons (h : Stable reads cs left) (c : Char) :
    Stable (fun text l => ∃ rest, text = c :: rest ∧ reads rest l) (c :: cs) left := by
  obtain ⟨eaten, rfl, closed, same⟩ := h
  exact ⟨c :: eaten, rfl, closed.cons c, fun l shorter => ⟨_, rfl, same l shorter⟩⟩

/-- One reading after another. -/
theorem Stable.seq (h : Stable reads cs mid) (h' : Stable reads' mid left) :
    Stable (fun text l => ∃ m, reads text m ∧ reads' m l) cs left := by
  obtain ⟨eaten, rfl, -, same⟩ := h
  obtain ⟨eaten', rfl, closed, same'⟩ := h'
  refine ⟨eaten ++ eaten', (List.append_assoc ..).symm, closed.append eaten, ?_⟩
  intro l shorter
  rw [List.append_assoc]
  exact ⟨eaten' ++ l, same _ (prefix_append shorter eaten'), same' l shorter⟩

end

/-- A run of characters, and what follows it. -/
theorem takeWhile_extent (p : Char → Bool) (cs : List Char) :
    Extent (fun text l => text.takeWhile p = cs.takeWhile p ∧ text.dropWhile p = l)
      (cs.takeWhile p) (cs.dropWhile p) := by
  intro l shorter
  have run : ∀ c ∈ cs.takeWhile p, p c = true := fun c mem => List.mem_takeWhile_imp mem
  have stop : l.takeWhile p = [] ∧ l.dropWhile p = l := by
    cases l with
    | nil => exact ⟨rfl, rfl⟩
    | cons c rest =>
      obtain ⟨more, same⟩ := shorter
      have other := Text.head?_dropWhile_not p cs c (by rw [← same]; rfl)
      simp [other]
  rw [List.takeWhile_append_of_pos run, List.dropWhile_append_of_pos run, stop.1, stop.2]
  exact ⟨List.append_nil _, rfl⟩

/-- What is read after the blanks in front of it. -/
theorem Stable.skip {reads : List Char → List Char → Prop} {rest left : List Char}
    (h : Stable reads (skip rest) left) : Stable (fun text l => reads (Json.skip text) l) rest left := by
  obtain ⟨eaten, first, closed, same⟩ := h
  have skipped := takeWhile_extent isLayout rest
  have whole := List.takeWhile_append_dropWhile (p := isLayout) (l := rest)
  change Extent _ _ (Json.skip rest) at skipped
  change _ ++ Json.skip rest = rest at whole
  rw [first] at skipped whole
  refine ⟨rest.takeWhile isLayout ++ eaten, by rw [List.append_assoc, whole], closed.append _, ?_⟩
  intro l shorter
  have blanks := (skipped _ (prefix_append shorter eaten)).2
  show reads (Json.skip (_ ++ eaten ++ l)) l
  rw [List.append_assoc, Json.skip, blanks]
  exact same l shorter

/-- A character that closes something, after blanks or none. -/
theorem stable_closing {rest left : List Char} {c : Char} (h : skip rest = c :: left)
    (visible : Text.isBlank c = false) : Stable (fun text l => skip text = c :: l) rest left := by
  have mark : Stable (fun text l => text = c :: l) (skip rest) left :=
    ⟨[c], h, ⟨[], c, rfl, visible⟩, fun l _ => rfl⟩
  exact mark.skip

/-! ## Strings -/

/-- Four hexadecimal digits are read alike before anything. -/
theorem hexCode?_extent {cs left : List Char} {n : Nat} (h : hexCode? cs = some (n, left)) :
    ∃ eaten, cs = eaten ++ left ∧ eaten.length = 4 ∧
      ∀ l, l ≠ [] → hexCode? (eaten ++ l) = some (n, l) := by
  unfold hexCode? at h
  split at h
  · rename_i a b c d e rest
    split at h
    · rename_i w x y z first second third fourth
      cases h
      refine ⟨[a, b, c, d], rfl, rfl, ?_⟩
      intro l some_
      obtain ⟨e', rest', rfl⟩ := List.exists_cons_of_ne_nil some_
      simp only [List.cons_append, List.nil_append, hexCode?, first, second, third, fourth]
    · cases h
  · cases h

/-- What may be the second half of a pair is none: there is too little of it, or it is another code. -/
def NoSecond (more : List Char) : Prop :=
  more.length < 5 ∨ ∃ low tail, hexCode? more = some (low, tail) ∧ isLowHalf low = false

/-- An escape stands alone if its code is no first half, or no second half follows. -/
theorem unicodeEscape_alone {cs rest : List Char} {high : Nat}
    (code : hexCode? cs = some (high, rest))
    (alone : isHighHalf high = true → ∀ more, rest = '\\' :: 'u' :: more → NoSecond more) :
    unicodeEscape cs = .ok (codeChar high, rest) := by
  rw [unicodeEscape, code]
  simp only
  split
  · rename_i more half
    rcases alone half more rfl with short | ⟨low, tail, second, other⟩
    · rw [if_pos short]
    · simp [second, other]
  · rfl

/-- A pair of escapes is read as one. -/
theorem unicodeEscape_pair {cs more tail : List Char} {high low : Nat}
    (code : hexCode? cs = some (high, '\\' :: 'u' :: more)) (half : isHighHalf high = true)
    (second : hexCode? more = some (low, tail)) (other : isLowHalf low = true) :
    unicodeEscape cs =
      .ok (Char.ofNat (0x10000 + (high - 0xd800) * 0x400 + (low - 0xdc00)), tail) := by
  have long : ¬ more.length < 5 := by
    unfold hexCode? at second
    split at second
    · simp
    · cases second
  rw [unicodeEscape, code]
  simp [half, long, second, other]

/-- How an escape by code is read. -/
theorem unicodeEscape_inv {cs left : List Char} {d : Char} (h : unicodeEscape cs = .ok (d, left)) :
    ∃ high, hexCode? cs = some (high, left) ∧ d = codeChar high ∧
        (isHighHalf high = true → ∀ more, left = '\\' :: 'u' :: more → NoSecond more) ∨
      ∃ low more, hexCode? cs = some (high, '\\' :: 'u' :: more) ∧ isHighHalf high = true ∧
        hexCode? more = some (low, left) ∧ isLowHalf low = true ∧
        d = Char.ofNat (0x10000 + (high - 0xd800) * 0x400 + (low - 0xdc00)) := by
  unfold unicodeEscape at h
  split at h
  · cases h
  · rename_i high rest code
    split at h
    · rename_i more half
      split at h
      · rename_i short
        obtain ⟨rfl, rfl⟩ := Prod.mk.inj (Except.ok.inj h)
        refine ⟨high, .inl ⟨code, rfl, ?_⟩⟩
        intro _ more' same
        cases same
        exact .inl short
      · split at h
        · cases h
        · rename_i low tail second
          split at h
          · rename_i other
            obtain ⟨rfl, rfl⟩ := Prod.mk.inj (Except.ok.inj h)
            exact ⟨high, .inr ⟨low, more, code, half, second, other, rfl⟩⟩
          · rename_i other
            obtain ⟨rfl, rfl⟩ := Prod.mk.inj (Except.ok.inj h)
            refine ⟨high, .inl ⟨code, rfl, ?_⟩⟩
            intro _ more' same
            cases same
            exact .inr ⟨low, tail, second, Bool.not_eq_true _ ▸ other⟩
    · rename_i single
      obtain ⟨rfl, rfl⟩ := Prod.mk.inj (Except.ok.inj h)
      refine ⟨high, .inl ⟨code, rfl, ?_⟩⟩
      rintro half more rfl
      exact absurd rfl (single more half)

/-- With less left there is even less of a second half. -/
theorem NoSecond.fewer {more less : List Char} (h : NoSecond more) (shorter : less <+: more) :
    NoSecond less := by
  obtain ⟨w, rfl⟩ := shorter
  by_cases short : less.length < 5
  · exact .inl short
  rcases h with short' | ⟨low, tail, second, other⟩
  · rw [List.length_append] at short'
    exact .inl (by omega)
  · -- All of the code is there, and something after it.
    obtain ⟨digits, parted, four, reads⟩ := hexCode?_extent second
    obtain ⟨l, rfl⟩ : digits <+: less :=
      List.prefix_of_prefix_length_le (List.prefix_append digits tail) ⟨w, parted⟩ (by omega)
    refine .inr ⟨low, l, reads l ?_, other⟩
    rintro rfl
    rw [List.append_nil] at short
    omega

/-- An escape by code. Whether a second one is read with it is settled by what is there of that. -/
theorem unicodeEscape_extent {cs left : List Char} {d : Char}
    (h : unicodeEscape cs = .ok (d, left)) : ∃ eaten, cs = eaten ++ left ∧
      Extent (fun text l => l ≠ [] → unicodeEscape text = .ok (d, l)) eaten left := by
  obtain ⟨high, ⟨code, same, alone⟩ | ⟨low, more, code, half, second, other, same⟩⟩ :=
    unicodeEscape_inv h
  · obtain ⟨digits, rfl, -, first⟩ := hexCode?_extent code
    refine ⟨digits, rfl, ?_⟩
    intro l shorter some_
    rw [same]
    refine unicodeEscape_alone (first l some_) ?_
    rintro half more rfl
    obtain ⟨w, whole⟩ := shorter
    exact (alone half (more ++ w) whole.symm).fewer (List.prefix_append more w)
  · obtain ⟨digits, rfl, -, first⟩ := hexCode?_extent code
    obtain ⟨digits', rfl, -, next⟩ := hexCode?_extent second
    refine ⟨digits ++ '\\' :: 'u' :: digits', by simp, ?_⟩
    intro l _ some_
    have code' := first ('\\' :: 'u' :: (digits' ++ l)) (List.cons_ne_nil _ _)
    rw [same, List.append_assoc]
    exact unicodeEscape_pair code' half (next l some_) other

/-- **A string** is read alike whatever is left of the text after it. -/
theorem StringText.stable {cs ds left : List Char} (h : StringText cs ds left) :
    Stable (fun text l => StringText text ds l) cs left := by
  induction h with
  | close left => exact ⟨['\x22'], rfl, ⟨[], _, rfl, by decide⟩, fun l _ => .close l⟩
  | plain quote mark printed _ ih =>
    refine (ih.cons _).mono ?_
    rintro _ l ⟨rest, rfl, more⟩
    exact .plain quote mark printed more
  | escape escaped _ ih =>
    refine ((ih.cons _).cons _).mono ?_
    rintro _ l ⟨_, rfl, rest, rfl, more⟩
    exact .escape escaped more
  | @code d rest tail ds left coded _ ih =>
    obtain ⟨eaten, rfl, closed, same⟩ := ih
    obtain ⟨digits, rfl, escape⟩ := unicodeEscape_extent coded
    refine ⟨'\\' :: 'u' :: (digits ++ eaten), by simp, ((closed.append digits).cons _).cons _, ?_⟩
    intro l shorter
    have more := same l shorter
    have some_ : eaten ++ l ≠ [] := by
      intro none_
      rw [none_] at more
      cases more
    have read := escape (eaten ++ l) (prefix_append shorter eaten) some_
    rw [← List.append_assoc] at read
    exact .code read more

/-! ## Numbers -/

/-- A digit is no blank. -/
theorem visible_of_isDigit {c : Char} (digit : c.isDigit = true) : Text.isBlank c = false := by
  simp only [Char.isDigit, Bool.and_eq_true, decide_eq_true_eq, UInt32.le_iff_toNat_le] at digit
  have low : 48 ≤ c.toNat := digit.1
  have high : c.toNat ≤ 57 := digit.2
  simp only [Text.isBlank, Bool.or_eq_false_iff, Bool.and_eq_false_iff, decide_eq_false_iff_not]
  omega

/-- Digits close a part of a text. -/
theorem closed_of_digits {ds : List Char} (some_ : ds ≠ []) (digits : ∀ c ∈ ds, c.isDigit = true) :
    Closed ds := by
  obtain ⟨init, c, rfl⟩ := List.eq_nil_or_concat ds |>.resolve_left some_
  exact ⟨init, c, List.concat_eq_append, visible_of_isDigit (digits c (by simp))⟩

theorem digits_wholeDigits (cs : List Char) : ∀ c ∈ (wholeDigits cs).1, c.isDigit = true := by
  unfold wholeDigits
  split
  · simp
  · intro c mem
    exact List.mem_takeWhile_imp mem

/-- The whole part of a number. -/
theorem wholeDigits_extent {cs whole left : List Char} (h : wholeDigits cs = (whole, left))
    (some_ : whole ≠ []) : Extent (fun text l => wholeDigits text = (whole, l)) whole left := by
  unfold wholeDigits at h
  split at h
  · cases h
    intro l _
    rfl
  · rename_i noZero
    obtain ⟨rfl, rfl⟩ := Prod.mk.inj h
    intro l shorter
    obtain ⟨run, stop⟩ := takeWhile_extent Char.isDigit cs l shorter
    unfold wholeDigits
    split
    · -- The run of digits would start with a zero, but then so would the text.
      rename_i rest zero
      obtain ⟨d, ds, first⟩ := List.exists_cons_of_ne_nil some_
      rw [first] at zero
      obtain rfl := (List.cons.inj zero).1
      have whole := List.takeWhile_append_dropWhile (p := Char.isDigit) (l := cs)
      rw [first] at whole
      exact absurd whole.symm (noZero _)
    · rw [run, stop]

/-- The digits of a fraction. -/
theorem fractionDigits_extent {cs fraction left : List Char}
    (h : fractionDigits cs = (fraction, left)) : ∃ eaten, cs = eaten ++ left ∧
      (eaten = [] ∧ fraction = [] ∨ Closed eaten ∧ fraction ≠ []) ∧
      Extent (fun text l => fractionDigits text = (fraction, l)) eaten left := by
  unfold fractionDigits at h
  split at h
  · rename_i d rest
    split at h
    · rename_i digit
      obtain ⟨rfl, rfl⟩ := Prod.mk.inj h
      have digits : ∀ c ∈ d :: rest.takeWhile Char.isDigit, c.isDigit = true :=
        List.forall_mem_cons.2 ⟨digit, fun c mem => List.mem_takeWhile_imp mem⟩
      refine ⟨'.' :: d :: rest.takeWhile Char.isDigit, ?_, .inr ⟨?_, List.cons_ne_nil _ _⟩, ?_⟩
      · simp [List.takeWhile_append_dropWhile]
      · exact (closed_of_digits (List.cons_ne_nil _ _) digits).cons '.'
      · intro l shorter
        obtain ⟨run, stop⟩ := takeWhile_extent Char.isDigit rest l shorter
        simp only [List.cons_append, fractionDigits, if_pos digit, run, stop]
    · rename_i noDigit
      obtain ⟨rfl, rfl⟩ := Prod.mk.inj h
      refine ⟨[], rfl, .inl ⟨rfl, rfl⟩, ?_⟩
      rintro l ⟨w, whole⟩
      unfold fractionDigits
      split
      · rename_i d' rest' same
        rw [List.nil_append] at same
        subst same
        obtain rfl := (List.cons.inj (List.cons.inj whole).2).1
        rw [if_neg noDigit]
      · rfl
  · rename_i noPoint
    obtain ⟨rfl, rfl⟩ := Prod.mk.inj h
    refine ⟨[], rfl, .inl ⟨rfl, rfl⟩, ?_⟩
    rintro l ⟨w, rfl⟩
    unfold fractionDigits
    split
    · rename_i d rest same
      rw [List.nil_append] at same
      subst same
      exact absurd rfl (noPoint d (rest ++ w))
    · rfl

/-- A sign, if there is one. -/
theorem sign_extent {cs left : List Char} {negative : Bool}
    (h : Reading.sign cs = (negative, left)) : ∃ eaten, cs = eaten ++ left ∧
      Extent (fun text l => Reading.sign text = (negative, l)) eaten left := by
  unfold Reading.sign at h
  split at h
  · cases h
    exact ⟨['-'], rfl, fun l _ => rfl⟩
  · cases h
    exact ⟨['+'], rfl, fun l _ => rfl⟩
  · rename_i noMinus noPlus
    cases h
    refine ⟨[], rfl, ?_⟩
    rintro l ⟨w, rfl⟩
    unfold Reading.sign
    split
    · rename_i rest same
      rw [List.nil_append] at same
      subst same
      exact absurd rfl (noMinus (rest ++ w))
    · rename_i rest same
      rw [List.nil_append] at same
      subst same
      exact absurd rfl (noPlus (rest ++ w))
    · rfl

/-- How an exponent is read. -/
theorem exponent?_cons {mark : Char} {rest digits : List Char} {negative : Bool}
    (marks : (mark = 'e' || mark = 'E') = true) (signed : Reading.sign rest = (negative, digits)) :
    exponent? (mark :: rest) =
      if (digits.takeWhile Char.isDigit).isEmpty then none
      else
        let n : Int := Reading.natOf (digits.takeWhile Char.isDigit)
        some (if negative then -n else n, digits.dropWhile Char.isDigit) := by
  rw [exponent?, if_pos marks, signed]

/-- An exponent. -/
theorem exponent?_stable {cs left : List Char} {e : Int} (h : exponent? cs = some (e, left)) :
    Stable (fun text l => exponent? text = some (e, l)) cs left := by
  cases cs with
  | nil => cases h
  | cons mark rest =>
    by_cases marks : (mark = 'e' || mark = 'E') = true
    · cases signed : Reading.sign rest with
      | mk negative digits =>
        rw [exponent?_cons marks signed] at h
        obtain ⟨sign, rfl, sameSign⟩ := sign_extent signed
        split at h
        · cases h
        · rename_i some_
          obtain ⟨rfl, rfl⟩ := Prod.mk.inj (Option.some.inj h)
          have run : digits.takeWhile Char.isDigit ≠ [] := by simpa using some_
          refine ⟨mark :: (sign ++ digits.takeWhile Char.isDigit), ?_, ?_, ?_⟩
          · simp [List.takeWhile_append_dropWhile]
          · have closed := closed_of_digits run fun c mem => List.mem_takeWhile_imp mem
            exact (closed.append sign).cons mark
          · intro l shorter
            obtain ⟨taken, stop⟩ := takeWhile_extent Char.isDigit digits l shorter
            have signed' := sameSign (digits.takeWhile Char.isDigit ++ l) (by
              conv_rhs => rw [← List.takeWhile_append_dropWhile (p := Char.isDigit) (l := digits)]
              exact prefix_append shorter _)
            rw [List.cons_append, List.append_assoc, exponent?_cons marks signed', taken, stop,
              if_neg some_]
    · rw [exponent?, if_neg marks] at h
      cases h

/-- A sign does not depend on what follows after something. -/
theorem sign_append {rest digits : List Char} {negative : Bool} (some_ : digits ≠ [])
    (h : Reading.sign rest = (negative, digits)) (w : List Char) :
    Reading.sign (rest ++ w) = (negative, digits ++ w) := by
  unfold Reading.sign at h
  split at h
  · cases h
    rfl
  · cases h
    rfl
  · rename_i noMinus noPlus
    cases h
    obtain ⟨d, ds, rfl⟩ := List.exists_cons_of_ne_nil some_
    rw [List.cons_append, Reading.sign]
    · rintro rest same
      exact noMinus ds (by rw [(List.cons.inj same).1])
    · rintro rest same
      exact noPlus ds (by rw [(List.cons.inj same).1])

/-- With more after it an exponent is still one. -/
theorem exponent?_append {l : List Char} (h : exponent? l ≠ none) (w : List Char) :
    exponent? (l ++ w) ≠ none := by
  cases l with
  | nil => exact absurd rfl h
  | cons mark rest =>
    by_cases marks : (mark = 'e' || mark = 'E') = true
    · cases signed : Reading.sign rest with
      | mk negative digits =>
        rw [exponent?_cons marks signed] at h
        have some_ : ¬ (digits.takeWhile Char.isDigit).isEmpty = true := by
          intro none_
          rw [if_pos none_] at h
          exact h rfl
        cases digits with
        | nil => exact absurd rfl some_
        | cons d ds =>
          rw [List.cons_append, exponent?_cons marks (sign_append (List.cons_ne_nil d ds) signed w)]
          cases digit : d.isDigit with
          | true => simp [digit]
          | false => simp [digit] at some_
    · rw [exponent?, if_neg marks] at h
      exact absurd rfl h

/-- The exponent of a number, or that there is none. -/
theorem exponentPart_extent {cs left : List Char} {e : Option Int}
    (h : exponentPart cs = (e, left)) : ∃ eaten, cs = eaten ++ left ∧ (eaten = [] ∨ Closed eaten) ∧
      Extent (fun text l => exponentPart text = (e, l)) eaten left := by
  unfold exponentPart at h
  split at h
  · rename_i none_
    cases h
    refine ⟨[], rfl, .inl rfl, ?_⟩
    rintro l ⟨w, rfl⟩
    have still : exponent? l = none := Classical.byContradiction fun some_ =>
      exponent?_append some_ w none_
    rw [List.nil_append, exponentPart, still]
  · rename_i n rest some_
    cases h
    obtain ⟨eaten, rfl, closed, same⟩ := exponent?_stable some_
    refine ⟨eaten, rfl, .inr closed, ?_⟩
    intro l shorter
    rw [exponentPart, same l shorter]

/-- **A number** is read alike whatever is left of the text after it. -/
theorem number_stable {cs left : List Char} {v : Value} (h : number cs = .ok (v, left)) :
    Stable (fun text l => number text = .ok (v, l)) cs left := by
  obtain ⟨wholes, some_, fractions, exponent, value⟩ := numberText_of_number h
  rename_i negative cs whole afterWhole fraction afterFraction e
  obtain ⟨scale, rfl, scaleClosed, sameScale⟩ := exponentPart_extent exponent
  obtain ⟨point, rfl, pointClosed, samePoint⟩ := fractionDigits_extent fractions
  have digits := digits_wholeDigits cs
  have whole_ := wholeDigits_append cs
  rw [wholes] at digits whole_
  obtain rfl : whole ++ (point ++ (scale ++ left)) = cs := whole_
  have closed : Closed (whole ++ (point ++ scale)) := by
    rcases pointClosed with ⟨rfl, -⟩ | ⟨closed, -⟩
    · rcases scaleClosed with rfl | closed
      · rw [List.append_nil, List.append_nil]
        exact closed_of_digits some_ digits
      · exact (closed.append _).append _
    · rcases scaleClosed with rfl | closed'
      · rw [List.append_nil]
        exact closed.append _
      · exact (closed'.append _).append _
  refine ⟨minus negative ++ (whole ++ (point ++ scale)), by simp, closed.append _, ?_⟩
  intro l shorter
  have shorter' := prefix_append shorter scale
  have shorter'' := prefix_append shorter' point
  have text : (minus negative ++ (whole ++ (point ++ scale))) ++ l =
    minus negative ++ (whole ++ (point ++ (scale ++ l))) := by simp
  rw [text]
  exact (NumberText.parts (wholeDigits_extent wholes some_ _ shorter'') some_ (samePoint _ shorter')
    (sameScale l shorter) value).read

/-! ## Documents -/

/-- No word ends in a blank. -/
theorem closed_words {w : String} {v : Value} (mem : (w, v) ∈ words) : Closed w.toList := by
  have ends : ∀ e ∈ words, e.1.toList.getLast?.any (fun c => !Text.isBlank c) = true := by decide
  have visible := ends _ mem
  simp only at visible
  rcases List.eq_nil_or_concat w.toList with none_ | ⟨init, c, whole⟩
  · rw [none_] at visible
    cases visible
  · rw [whole, List.concat_eq_append] at visible ⊢
    exact ⟨init, c, rfl, by simpa using visible⟩

/-- **A part of a document** is read alike whatever is left of the text after it, and does not end in a
blank. -/
theorem Derives.stable {p : Part} {cs left : List Char} (h : Derives p cs left) :
    Stable (Derives p) cs left := by
  induction h with
  | word mem => exact ⟨_, rfl, closed_words mem, fun l _ => .word mem⟩
  | number digits => exact (number_stable digits).mono fun _ _ => .number
  | text string =>
    refine (string.stable.cons _).mono ?_
    rintro _ l ⟨rest, rfl, string⟩
    exact .text string
  | emptyList close =>
    refine ((stable_closing close (by decide)).cons _).mono ?_
    rintro _ l ⟨rest, rfl, close⟩
    exact .emptyList close
  | list _ ih =>
    refine (ih.skip.cons _).mono ?_
    rintro _ l ⟨rest, rfl, items⟩
    exact .list items
  | emptyObject close =>
    refine ((stable_closing close (by decide)).cons _).mono ?_
    rintro _ l ⟨rest, rfl, close⟩
    exact .emptyObject close
  | object _ ih =>
    refine (ih.skip.cons _).mono ?_
    rintro _ l ⟨rest, rfl, fields⟩
    exact .object fields
  | lastItem _ close ih =>
    refine (ih.seq (stable_closing close (by decide))).mono ?_
    rintro text l ⟨m, item, close⟩
    exact .lastItem item close
  | item _ comma _ ih ih' =>
    refine (ih.seq ((stable_closing comma (by decide)).seq ih'.skip)).mono ?_
    rintro text l ⟨m, item, m', comma, items⟩
    exact .item item comma items
  | lastField name colon _ close ih =>
    have value := ih.skip.seq (stable_closing close (by decide))
    refine ((name.stable.seq ((stable_closing colon (by decide)).seq value)).cons _).mono ?_
    rintro _ l ⟨_, rfl, m, name, m', colon, m'', value, close⟩
    exact .lastField name colon value close
  | field name colon _ comma _ ih ih' =>
    have others := (stable_closing comma (by decide)).seq ih'.skip
    have value := ih.skip.seq others
    refine ((name.stable.seq ((stable_closing colon (by decide)).seq value)).cons _).mono ?_
    rintro _ l ⟨_, rfl, m, name, m', colon, m'', value, _, comma, fields⟩
    exact .field name colon value comma fields

/-! ## Blanks around a document -/

/-- A character that a value may start with: no blank, and neither a percent sign nor a byte order
mark. -/
def Opening (c : Char) : Prop := Text.isBlank c = false ∧ c ≠ '%' ∧ c ≠ Char.ofNat 0xfeff

instance (c : Char) : Decidable (Opening c) := inferInstanceAs (Decidable (_ ∧ _ ∧ _))

/-- A digit may open a value. -/
theorem opening_of_isDigit {c : Char} (digit : c.isDigit = true) : Opening c := by
  refine ⟨visible_of_isDigit digit, ?_, ?_⟩
  · rintro rfl
    cases digit
  · rintro rfl
    cases digit

/-- **How a value starts.** -/
theorem Derives.opening {p : Part} {cs left : List Char} (h : Derives p cs left) :
    ∃ c rest, cs = c :: rest ∧ Opening c := by
  induction h with
  | @word w v left mem =>
    have first : words.all fun e => e.1.toList.head?.any fun c => decide (Opening c) := by decide
    obtain ⟨c, head, opening⟩ := Option.any_eq_true .. |>.1 (List.all_eq_true.1 first _ mem)
    obtain ⟨rest, whole⟩ := List.head?_eq_some_iff.1 head
    replace opening : Opening c := of_decide_eq_true opening
    exact ⟨c, rest ++ left, by rw [whole]; rfl, opening⟩
  | number digits =>
    obtain ⟨-, d, rest, rfl | rfl, digit⟩ := (numberText_of_number digits).starts
    · exact ⟨d, rest, rfl, opening_of_isDigit digit⟩
    · exact ⟨'-', d :: rest, rfl, by decide⟩
  | lastItem _ _ ih => exact ih
  | item _ _ _ ih _ => exact ih
  | _ => exact ⟨_, _, rfl, by decide⟩

/-- Layout is blank. -/
theorem blank_of_layout {c : Char} (h : isLayout c = true) : Text.isBlank c = true := by
  simp only [isLayout, Bool.or_eq_true, decide_eq_true_eq] at h
  rcases h with ((rfl | rfl) | rfl) | rfl
  all_goals decide

/-- What does not start with layout is not skipped. -/
theorem skip_of_opening {c : Char} {rest : List Char} (opening : Opening c) :
    skip (c :: rest) = c :: rest := by
  have solid : isLayout c = false := by
    cases layout : isLayout c with
    | false => rfl
    | true => exact absurd (blank_of_layout layout) (by simp [opening.1])
  simp [skip, solid]

/-- In front of a document there are no blanks but layout. -/
theorem Document.dropWhile {s : String} {v : Value} (h : Document s v) :
    s.toList.dropWhile Text.isBlank = skip s.toList := by
  obtain ⟨-, left, derived, -⟩ := h
  obtain ⟨c, rest, start, opening⟩ := derived.opening
  have front : ∀ d ∈ s.toList.takeWhile isLayout, Text.isBlank d = true :=
    fun d mem => blank_of_layout (List.mem_takeWhile_imp mem)
  have whole : s.toList.takeWhile isLayout ++ skip s.toList = s.toList :=
    List.takeWhile_append_dropWhile
  rw [← whole, List.dropWhile_append_of_pos front, whole, start]
  simp [opening.1]

/-- Without the layout in front a document is the same. -/
theorem Document.skipped {s : String} {v : Value} (h : Document s v) :
    Document (String.ofList (skip s.toList)) v := by
  obtain ⟨-, left, derived, stop⟩ := h
  obtain ⟨c, rest, start, opening⟩ := derived.opening
  rw [start] at derived ⊢
  refine ⟨?_, left, ?_, stop⟩
  · rw [String.toList_ofList]
    exact fun mark => opening.2.2 (Option.some.inj mark)
  · rwa [String.toList_ofList, skip_of_opening opening]

/-- Blanks at the end of a text do not reach into a part that does not end in a blank. -/
theorem Closed.before {eaten left cs w : List Char} (closed : Closed eaten)
    (blank : ∀ c ∈ w, Text.isBlank c = true) (whole : cs ++ w = eaten ++ left) :
    ∃ l, cs = eaten ++ l ∧ left = l ++ w := by
  rcases List.append_eq_append_iff.1 whole with ⟨a, rfl, rfl⟩ | ⟨l, rfl, rfl⟩
  · obtain ⟨init, c, ends, visible⟩ := closed
    rcases List.eq_nil_or_concat a with rfl | ⟨a, d, rfl⟩
    · exact ⟨[], by rw [List.append_nil, List.append_nil], rfl⟩
    · -- The last character would be a blank and no blank.
      rw [List.concat_eq_append, ← List.append_assoc] at ends
      obtain rfl := List.singleton_inj.1 (List.append_inj_right' ends rfl)
      rw [blank d (by simp)] at visible
      cases visible
  · exact ⟨l, rfl, rfl⟩

/-- **Blanks at the end of a document are layout**: without them it is the same. -/
theorem Document.cut {cs w : List Char} {v : Value} (h : Document (String.ofList (cs ++ w)) v)
    (blank : ∀ c ∈ w, Text.isBlank c = true) : Document (String.ofList cs) v := by
  obtain ⟨mark, left, derived, stop⟩ := h
  rw [String.toList_ofList] at mark derived
  have layout : ∀ c ∈ left, isLayout c = true := List.dropWhile_eq_nil_iff.1 stop
  obtain ⟨eaten, start, closed, same⟩ := derived.stable
  have whole : cs ++ w = ((cs ++ w).takeWhile isLayout ++ eaten) ++ left := by
    rw [List.append_assoc, ← start]
    exact List.takeWhile_append_dropWhile.symm
  obtain ⟨l, parted, rfl⟩ := (closed.append _).before blank whole
  have shorter : l <+: l ++ w := List.prefix_append l w
  -- What is left of the text is the part of the layout that is not cut off.
  have skipped : skip cs = eaten ++ l := by
    rw [parted, List.append_assoc]
    apply (takeWhile_extent isLayout (cs ++ w) (eaten ++ l) _).2
    show _ <+: skip (cs ++ w)
    rw [start]
    exact prefix_append shorter eaten
  refine ⟨?_, l, ?_, ?_⟩
  · rw [String.toList_ofList]
    intro first
    rw [List.head?_append, first] at mark
    exact mark rfl
  · rw [String.toList_ofList, skipped]
    exact same l shorter
  · exact List.dropWhile_eq_nil_iff.2 fun c mem => layout c (List.mem_append_left w mem)

/-- **Cutting off the blanks around a document** leaves a document of the same. -/
theorem Document.strip {s : String} {v : Value} (h : Document s v) : Document (Text.strip s) v := by
  obtain ⟨w, whole, blank⟩ := Text.exists_dropEndWhile Text.isBlank (skip s.toList)
  have skipped := h.skipped
  rw [whole] at skipped
  rw [Text.strip, Text.trimWhile, h.dropWhile]
  exact skipped.cut blank

/-- **No document starts with a percent sign.** -/
theorem Document.head_ne {s : String} {v : Value} (h : Document s v) :
    s.toList.head? ≠ some '%' := by
  obtain ⟨-, left, derived, -⟩ := h
  obtain ⟨c, rest, start, opening⟩ := derived.opening
  intro first
  obtain ⟨others, whole⟩ := List.head?_eq_some_iff.1 first
  have solid : skip s.toList = '%' :: others := by
    rw [whole]
    rfl
  rw [solid] at start
  exact opening.2.1 (List.cons.inj start).1.symm

end CallTree.Json
