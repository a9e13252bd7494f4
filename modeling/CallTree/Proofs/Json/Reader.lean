/-
# CallTree.Proofs.Json.Reader — which texts are documents.

`Derives` is the grammar of documents: which text a value may be read from, and what is left of it. It
has no count of steps, and the reader accepts what it derives and nothing else (`read_eq_ok_iff`):
the count that the reader recurses on never runs out on a text that is a document. What is left is
shorter after each step (`Derives.shorter`), which makes the count enough (`Derives.read`).
-/
import CallTree.Json.Reader
import CallTree.Proofs.Except

namespace CallTree.Json

/-! ## Strings -/

/-- **The characters of a string** after its opening quote, and what follows its closing one. -/
inductive StringText : List Char → List Char → List Char → Prop where
  | close (left : List Char) : StringText ('\x22' :: left) [] left
  | plain {c : Char} {rest ds left : List Char} (quote : c ≠ '\x22') (mark : c ≠ '\\')
      (printed : 0x20 ≤ c.toNat) (more : StringText rest ds left) :
      StringText (c :: rest) (c :: ds) left
  | escape {c d : Char} {rest ds left : List Char} (escaped : escape? c = some d)
      (more : StringText rest ds left) : StringText ('\\' :: c :: rest) (d :: ds) left
  | code {d : Char} {rest tail ds left : List Char} (coded : unicodeEscape rest = .ok (d, tail))
      (more : StringText tail ds left) : StringText ('\\' :: 'u' :: rest) (d :: ds) left

theorem hexCode?_shorter {cs rest : List Char} {n : Nat} (h : hexCode? cs = some (n, rest)) :
    rest.length < cs.length := by
  unfold hexCode? at h
  split at h
  · split at h
    · cases h
      simp
    · cases h
  · cases h

/-- An escape by code takes something off the text. -/
theorem unicodeEscape_shorter {cs tail : List Char} {d : Char}
    (h : unicodeEscape cs = .ok (d, tail)) : tail.length < cs.length := by
  unfold unicodeEscape at h
  split at h
  · cases h
  · rename_i first
    have shorter := hexCode?_shorter first
    split at h
    · split at h
      · cases h
        exact shorter
      · split at h
        · cases h
        · rename_i second
          have shorter' := hexCode?_shorter second
          split at h
          · obtain ⟨-, rfl⟩ := Prod.mk.inj (Except.ok.inj h)
            simp only [List.length_cons] at shorter
            omega
          · cases h
            exact shorter
    · cases h
      exact shorter

theorem StringText.shorter {cs ds left : List Char} (h : StringText cs ds left) :
    left.length < cs.length := by
  induction h with
  | close left => simp
  | plain _ _ _ _ ih => rw [List.length_cons]; omega
  | escape _ _ ih => rw [List.length_cons, List.length_cons]; omega
  | code coded _ ih =>
    have := unicodeEscape_shorter coded
    rw [List.length_cons, List.length_cons]
    omega

/-- What the reader of strings accepts is a string. -/
theorem stringText_of_stringBody {opening : List Char} {fuel : Nat} {cs ds left : List Char}
    (h : stringBody opening fuel cs = .ok (ds, left)) : StringText cs ds left := by
  fun_induction stringBody opening fuel cs generalizing ds left with
  | case3 _ rest =>
    cases h
    exact .close _
  | case6 _ rest d tail coded ih =>
    obtain ⟨⟨es, left'⟩, read, same⟩ := map_eq_ok_iff.1 h
    cases same
    exact .code coded (ih read)
  | case8 _ c rest _ d escaped ih =>
    obtain ⟨⟨es, left'⟩, read, same⟩ := map_eq_ok_iff.1 h
    cases same
    exact .escape escaped (ih read)
  | case10 _ c rest quote one more printed ih =>
    obtain ⟨⟨es, left'⟩, read, same⟩ := map_eq_ok_iff.1 h
    cases same
    refine .plain quote (fun mark => ?_) (Nat.not_lt.1 printed) (ih read)
    cases rest with
    | nil => exact one mark rfl
    | cons c' rest' => exact more c' rest' mark rfl
  | _ => cases h

/-- **The reader of strings accepts every string** that its count is enough for. -/
theorem StringText.read {cs ds left : List Char} (h : StringText cs ds left) (opening : List Char) :
    ∀ {fuel : Nat}, cs.length < fuel → stringBody opening fuel cs = .ok (ds, left) := by
  induction h with
  | close left =>
    rintro (_ | fuel) enough
    · cases enough
    · rfl
  | @plain c rest ds left quote mark printed _ ih =>
    rintro (_ | fuel) enough
    · cases enough
    · rw [List.length_cons] at enough
      rw [stringBody, if_neg (Nat.not_lt.2 printed), ih (by omega)]
      · rfl
      all_goals simp [quote, mark]
  | @escape c d rest ds left escaped _ ih =>
    rintro (_ | fuel) enough
    · cases enough
    · rw [List.length_cons, List.length_cons] at enough
      have other : c ≠ 'u' := by
        rintro rfl
        cases escaped
      rw [stringBody, if_neg other, escaped, ih (by omega)]
      rfl
  | @code d rest tail ds left coded _ ih =>
    rintro (_ | fuel) enough
    · cases enough
    · rw [List.length_cons, List.length_cons] at enough
      have shorter := unicodeEscape_shorter coded
      rw [stringBody, if_pos rfl, coded]
      show (stringBody opening fuel tail).map _ = _
      rw [ih (by omega)]
      rfl

theorem string_eq_ok_iff {cs left : List Char} {s : String} :
    string cs = .ok (s, left) ↔ StringText cs s.toList left := by
  rw [string, map_eq_ok_iff]
  constructor
  · rintro ⟨⟨ds, left'⟩, read, same⟩
    cases same
    rw [String.toList_ofList]
    exact stringText_of_stringBody read
  · intro h
    exact ⟨_, h.read _ (Nat.lt_succ_self _), congrArg (·, left) String.ofList_toList⟩

/-! ## Numbers -/

theorem wholeDigits_append (cs : List Char) : (wholeDigits cs).1 ++ (wholeDigits cs).2 = cs := by
  unfold wholeDigits
  split
  · rfl
  · exact List.takeWhile_append_dropWhile

theorem fractionDigits_length_le (cs : List Char) : (fractionDigits cs).2.length ≤ cs.length := by
  unfold fractionDigits
  split
  · split
    · rename_i rest _
      have := (List.dropWhile_sublist (l := rest) Char.isDigit).length_le
      simp only [List.length_cons]
      omega
    · exact Nat.le_refl _
  · exact Nat.le_refl _

theorem sign_length_le (cs : List Char) : (Reading.sign cs).2.length ≤ cs.length := by
  unfold Reading.sign
  split <;> simp

theorem exponent?_length_le {cs rest : List Char} {e : Int} (h : exponent? cs = some (e, rest)) :
    rest.length ≤ cs.length := by
  unfold exponent? at h
  split at h
  · rename_i mark digits
    have signed := sign_length_le digits
    have fewer := (List.dropWhile_sublist (l := (Reading.sign digits).2) Char.isDigit).length_le
    dsimp only at h
    split at h
    · cases none_ : ((Reading.sign digits).2.takeWhile Char.isDigit).isEmpty with
      | true => rw [none_] at h; cases h
      | false =>
        rw [none_] at h
        cases h
        rw [List.length_cons]
        omega
    · cases h
  · cases h

/-- The whole part of a number starts with a digit. -/
theorem wholeDigits_head {cs : List Char} (h : (wholeDigits cs).1 ≠ []) :
    ∃ d rest, cs = d :: rest ∧ d.isDigit = true := by
  unfold wholeDigits at h
  split at h
  · exact ⟨_, _, rfl, rfl⟩
  · cases cs with
    | nil => exact absurd rfl h
    | cons d rest =>
      refine ⟨d, rest, rfl, ?_⟩
      cases digit : d.isDigit with
      | true => rfl
      | false => simp [List.takeWhile, digit] at h

/-- The exponent of a number, if it has one, and what follows. -/
def exponentPart (cs : List Char) : Option Int × List Char :=
  match exponent? cs with
  | none => (none, cs)
  | some (e, rest) => (some e, rest)

theorem exponentPart_length_le (cs : List Char) : (exponentPart cs).2.length ≤ cs.length := by
  unfold exponentPart
  split
  · exact Nat.le_refl _
  · rename_i e rest exponent
    exact exponent?_length_le exponent

/-- The sign of a number, which may only be a minus. -/
def minus (negative : Bool) : List Char := if negative then ['-'] else []

/-- The value of a number, from its digits and its exponent. -/
def numberValue (negative : Bool) (whole fraction : List Char) : Option Int → Option Value
  | none =>
    if fraction.isEmpty then
      match Reading.natUpToLimit whole with
      | .ok n => some (.int (if negative then -(n : Int) else n))
      | .error _ => none
    else
      some (.float (Binary64.ofDecimal negative (Reading.natOf (whole ++ fraction))
        (-(fraction.length : Int))))
  | some e =>
    some (.float (Binary64.ofDecimal negative (Reading.natOf (whole ++ fraction))
      (e - fraction.length)))

/-- **A number**, its value, and what follows it: its whole digits, after a minus or none, its fraction
and its exponent. -/
inductive NumberText : List Char → Value → List Char → Prop where
  | parts {negative : Bool} {cs whole afterWhole fraction afterFraction left : List Char} {v : Value}
      {e : Option Int} (wholes : wholeDigits cs = (whole, afterWhole)) (some_ : whole ≠ [])
      (fractions : fractionDigits afterWhole = (fraction, afterFraction))
      (exponent : exponentPart afterFraction = (e, left))
      (value : numberValue negative whole fraction e = some v) :
      NumberText (minus negative ++ cs) v left

/-- Where there is no fraction, none of the text is taken for one. -/
theorem eq_of_no_fraction {cs left : List Char} (h : fractionDigits cs = ([], left)) : left = cs := by
  unfold fractionDigits at h
  split at h
  · split at h
    · cases h
    · exact (Prod.mk.inj h).2.symm
  · exact (Prod.mk.inj h).2.symm

/-- What the reader of numbers accepts is a number. -/
theorem numberText_of_number {cs left : List Char} {v : Value} (h : number cs = .ok (v, left)) :
    NumberText cs v left := by
  unfold number at h
  split at h
  rename_i negative unsigned signed
  obtain rfl : cs = minus negative ++ unsigned := by
    split at signed
    · cases signed
      rfl
    · cases signed
      rfl
  split at h
  rename_i whole afterWhole wholes
  split at h
  · cases h
  · rename_i nonempty
    have some_ : whole ≠ [] := by simpa using nonempty
    split at h
    rename_i fraction afterFraction fractions
    split at h
    · rename_i noExponent
      obtain rfl := eq_of_no_fraction fractions
      split at h
      · rename_i n digits
        cases h
        exact .parts wholes some_ fractions (by rw [exponentPart, noExponent])
          (by simp [numberValue, digits])
      · cases h
    · rename_i noInt noExponent
      cases h
      exact .parts wholes some_ fractions (by rw [exponentPart, noExponent]) (by
        rw [numberValue, if_neg]
        rw [List.isEmpty_iff]
        exact noInt)
    · rename_i e rest exponent
      cases h
      exact .parts wholes some_ fractions (by rw [exponentPart, exponent]) rfl

/-- The reader of numbers accepts every number. -/
theorem NumberText.read {cs left : List Char} {v : Value} (h : NumberText cs v left) :
    number cs = .ok (v, left) := by
  obtain ⟨wholes, some_, fractions, exponent, value⟩ := h
  rename_i negative cs whole afterWhole fraction afterFraction e
  obtain ⟨d, rest, rfl, digit⟩ : ∃ d rest, cs = d :: rest ∧ d.isDigit = true :=
    wholeDigits_head (by rw [wholes]; exact some_)
  have noMinus : d ≠ '-' := by
    rintro rfl
    cases digit
  cases scale : exponent? afterFraction with
  | none =>
    rw [exponentPart, scale] at exponent
    cases exponent
    cases fraction with
    | nil =>
      obtain rfl := eq_of_no_fraction fractions
      cases digits : Reading.natUpToLimit whole with
      | error _ => simp [numberValue, digits] at value
      | ok n =>
        simp only [numberValue, digits, List.isEmpty_nil, if_true, Option.some.injEq] at value
        cases negative with
        | true => simpa [number, minus, wholes, some_, fractions, scale, digits] using value
        | false => simpa [number, minus, noMinus, wholes, some_, fractions, scale, digits] using value
    | cons f fs =>
      simp only [numberValue, List.isEmpty_cons, Bool.false_eq_true, if_false, Option.some.injEq] at value
      cases negative with
      | true => simpa [number, minus, wholes, some_, fractions, scale] using value
      | false => simpa [number, minus, noMinus, wholes, some_, fractions, scale] using value
  | some read =>
    rw [exponentPart, scale] at exponent
    cases exponent
    simp only [numberValue, Option.some.injEq] at value
    cases negative with
    | true => simpa [number, minus, wholes, some_, fractions, scale] using value
    | false => simpa [number, minus, noMinus, wholes, some_, fractions, scale] using value

/-- **A number** starts with a digit, after a sign if it has one, and takes something off the
text. -/
theorem NumberText.starts {cs left : List Char} {v : Value} (h : NumberText cs v left) :
    left.length < cs.length ∧
      ∃ d rest, (cs = d :: rest ∨ cs = '-' :: d :: rest) ∧ d.isDigit = true := by
  obtain ⟨wholes, some_, fractions, exponent, -⟩ := h
  rename_i negative cs whole afterWhole fraction afterFraction e
  -- There are whole digits, and what is left is no more than what follows them.
  have digits := congrArg List.length (wholeDigits_append cs)
  have point := fractionDigits_length_le afterWhole
  have scale := exponentPart_length_le afterFraction
  rw [wholes, List.length_append] at digits
  rw [fractions] at point
  rw [exponent] at scale
  have positive := List.length_pos_iff.2 some_
  have shorter : left.length < cs.length := by
    dsimp only at digits point scale
    omega
  obtain ⟨d, rest, rfl, digit⟩ : ∃ d rest, cs = d :: rest ∧ d.isDigit = true :=
    wholeDigits_head (by rw [wholes]; exact some_)
  cases negative with
  | true => exact ⟨Nat.lt_succ_of_lt shorter, d, rest, .inr rfl, digit⟩
  | false => exact ⟨shorter, d, rest, .inl rfl, digit⟩

/-! ## Documents -/

/-- The words of documents, with their values. -/
def words : List (String × Value) :=
  [("null", .null), ("true", .bool true), ("false", .bool false), ("NaN", .float .nan),
    ("Infinity", .float (.infinite false)), ("-Infinity", .float (.infinite true))]

/-- A part of a document: a value, the items of a list from one on up to the closing bracket, or the
fields of an object from one on up to the closing brace, with those before it. -/
inductive Part where
  | value (v : Value)
  | items (vs : List Value)
  | fields (sofar all : Table Value)

/-- **The grammar of documents**: what stands in front of a text, and what is left of it. -/
inductive Derives : Part → List Char → List Char → Prop where
  | word {w : String} {v : Value} {left : List Char} (mem : (w, v) ∈ words) :
      Derives (.value v) (w.toList ++ left) left
  | number {cs left : List Char} {v : Value} (digits : number cs = .ok (v, left)) :
      Derives (.value v) cs left
  | text {rest left : List Char} {s : String} (string : StringText rest s.toList left) :
      Derives (.value (.text s)) ('\x22' :: rest) left
  | emptyList {rest left : List Char} (close : skip rest = ']' :: left) :
      Derives (.value (.list [])) ('[' :: rest) left
  | list {rest left : List Char} {vs : List Value} (items : Derives (.items vs) (skip rest) left) :
      Derives (.value (.list vs)) ('[' :: rest) left
  | emptyObject {rest left : List Char} (close : skip rest = '\x7d' :: left) :
      Derives (.value (.object [])) ('\x7b' :: rest) left
  | object {rest left : List Char} {fs : Table Value}
      (fields : Derives (.fields [] fs) (skip rest) left) :
      Derives (.value (.object fs)) ('\x7b' :: rest) left
  | lastItem {cs rest left : List Char} {v : Value} (item : Derives (.value v) cs rest)
      (close : skip rest = ']' :: left) : Derives (.items [v]) cs left
  | item {cs rest more left : List Char} {v : Value} {vs : List Value}
      (item : Derives (.value v) cs rest) (comma : skip rest = ',' :: more)
      (items : Derives (.items vs) (skip more) left) : Derives (.items (v :: vs)) cs left
  | lastField {rest afterKey beforeValue afterValue left : List Char} {sofar : Table Value}
      {key : String} {v : Value} (name : StringText rest key.toList afterKey)
      (colon : skip afterKey = ':' :: beforeValue)
      (value : Derives (.value v) (skip beforeValue) afterValue)
      (close : skip afterValue = '\x7d' :: left) :
      Derives (.fields sofar (sofar.set key v)) ('\x22' :: rest) left
  | field {rest afterKey beforeValue afterValue more left : List Char} {sofar all : Table Value}
      {key : String} {v : Value} (name : StringText rest key.toList afterKey)
      (colon : skip afterKey = ':' :: beforeValue)
      (value : Derives (.value v) (skip beforeValue) afterValue)
      (comma : skip afterValue = ',' :: more)
      (fields : Derives (.fields (sofar.set key v) all) (skip more) left) :
      Derives (.fields sofar all) ('\x22' :: rest) left

theorem skip_length_le (cs : List Char) : (skip cs).length ≤ cs.length :=
  (List.dropWhile_sublist _).length_le

/-- What is left after a blank or none and one more character is shorter. -/
theorem shorter_of_skip {cs left : List Char} {c : Char} (h : skip cs = c :: left) :
    left.length < cs.length := by
  have := skip_length_le cs
  rw [h, List.length_cons] at this
  omega

/-- What follows one character and more blanks is shorter than what they follow. -/
theorem skip_shorter_of_skip {cs more : List Char} {c : Char} (h : skip cs = c :: more) :
    (skip more).length < cs.length :=
  Nat.lt_of_le_of_lt (skip_length_le more) (shorter_of_skip h)

/-- **What is read takes something off the text.** -/
theorem Derives.shorter {p : Part} {cs left : List Char} (h : Derives p cs left) :
    left.length < cs.length := by
  induction h with
  | @word w v left mem =>
    have long : ∀ e ∈ words, 0 < e.1.toList.length := by decide
    have : 0 < w.toList.length := long _ mem
    rw [List.length_append]
    omega
  | number digits => exact ((numberText_of_number digits).starts).1
  | text string => exact Nat.lt_succ_of_lt string.shorter
  | emptyList close => exact Nat.lt_succ_of_lt (shorter_of_skip close)
  | list _ ih => exact Nat.lt_succ_of_lt (Nat.lt_of_lt_of_le ih (skip_length_le _))
  | emptyObject close => exact Nat.lt_succ_of_lt (shorter_of_skip close)
  | object _ ih => exact Nat.lt_succ_of_lt (Nat.lt_of_lt_of_le ih (skip_length_le _))
  | lastItem _ close ih => exact Nat.lt_trans (shorter_of_skip close) ih
  | item _ comma _ ih ih' =>
    have := skip_shorter_of_skip comma
    omega
  | lastField name colon _ close ih =>
    have := name.shorter
    have := skip_shorter_of_skip colon
    have := shorter_of_skip close
    rw [List.length_cons]
    omega
  | field name colon _ comma _ ih ih' =>
    have := name.shorter
    have := skip_shorter_of_skip colon
    have := skip_shorter_of_skip comma
    rw [List.length_cons]
    omega

/-! ## Reading what is derived -/

/-- A part is read from a text, with a count of steps. -/
def Part.Read (fuel : Nat) : Part → List Char → List Char → Prop
  | .value v, cs, left => Json.value fuel cs = .ok (v, left)
  | .items vs, cs, left => Json.items fuel cs = .ok (vs, left)
  | .fields sofar all, cs, left => Json.fields fuel sofar cs = .ok (all, left)

/-- A count of steps that is enough for texts of a length. -/
def Part.enough : Part → Nat → Nat
  | .value _, length => 2 * length + 1
  | .items _, length => 2 * length + 2
  | .fields _ _, length => 2 * length + 2

/-- No item starts with a closing bracket. -/
theorem Derives.not_bracket {p : Part} {cs left : List Char} (h : Derives p cs left) (rest : List Char) :
    cs ≠ ']' :: rest := by
  induction h with
  | @word w _ left mem =>
    have other : ∀ e ∈ words, e.1.toList.head? ≠ some ']' ∧ e.1.toList ≠ [] := by decide
    obtain ⟨head, some_⟩ : w.toList.head? ≠ some ']' ∧ w.toList ≠ [] := other _ mem
    obtain ⟨c, cs, letters⟩ := List.exists_cons_of_ne_nil some_
    rw [letters] at head ⊢
    rintro ⟨⟩
    exact head rfl
  | number digits =>
    obtain ⟨-, d, rest, rfl | rfl, digit⟩ := (numberText_of_number digits).starts
    · rintro ⟨⟩
      exact absurd digit (by decide)
    · nofun
  | lastItem _ _ ih => exact ih
  | item _ _ _ ih _ => exact ih
  | _ => nofun

/-- What starts as a number does is read as one. -/
theorem value_eq_number {fuel : Nat} {cs left : List Char} {v : Value}
    (h : number cs = .ok (v, left)) : value (fuel + 1) cs = number cs := by
  obtain ⟨-, d, rest, start, digit⟩ := (numberText_of_number h).starts
  simp only [value]
  split
  case h_10 => rfl
  -- Every other case has a text that starts with no digit and no sign before a digit.
  all_goals obtain same | same := start <;> cases same <;> exact absurd digit (by decide)

/-- **The reader accepts whatever the grammar derives**, if its count is enough. -/
theorem Derives.read {p : Part} {cs left : List Char} (h : Derives p cs left) :
    ∀ {fuel : Nat}, p.enough cs.length ≤ fuel → p.Read fuel cs left := by
  have counted {p : Part} {length fuel : Nat} (enough : p.enough length ≤ fuel) :
      ∃ n, fuel = n + 1 :=
    Nat.exists_eq_add_one.2 (Nat.lt_of_lt_of_le (by cases p <;> exact Nat.succ_pos _) enough)
  -- Each step takes one off the count, and a part inside has less text or needs one step less.
  induction h
  all_goals
    intro fuel enough
    obtain ⟨fuel, rfl⟩ := counted enough
    simp only [Part.Read, Part.enough, List.length_cons] at *
  case word mem =>
    simp only [words, List.mem_cons, Prod.mk.injEq, List.not_mem_nil, or_false] at mem
    rcases mem with ⟨rfl, rfl⟩ | ⟨rfl, rfl⟩ | ⟨rfl, rfl⟩ | ⟨rfl, rfl⟩ | ⟨rfl, rfl⟩ | ⟨rfl, rfl⟩
    all_goals rfl
  case number digits => exact (value_eq_number digits).trans digits
  case text string =>
    simp only [Json.value, string_eq_ok_iff.2 string]
    rfl
  case emptyList close => simp only [Json.value, close]
  case list rest left vs derived ih =>
    have := skip_length_le rest
    rw [Json.value]
    split
    · rename_i left' close
      exact absurd close (derived.not_bracket left')
    · rw [ih (by omega)]
      rfl
  case emptyObject close => simp only [Json.value, close]
  case object rest left fs derived ih =>
    have := skip_length_le rest
    rw [Json.value]
    split
    · rename_i left' close
      rw [close] at derived
      cases derived
    · rw [ih (by omega)]
      rfl
  case lastItem close ih =>
    simp only [Json.items, ih (Nat.le_of_succ_le_succ enough), close]
  case item derived comma _ ih ih' =>
    have := derived.shorter
    have := skip_shorter_of_skip comma
    simp only [Json.items, ih (Nat.le_of_succ_le_succ enough), comma]
    rw [ih' (by omega)]
    rfl
  case lastField name colon _ close ih =>
    have := name.shorter
    have := skip_shorter_of_skip colon
    have read := @ih fuel (by omega)
    simp only [Json.fields, string_eq_ok_iff.2 name, colon, read, close]
  case field name colon derived comma _ ih ih' =>
    have := name.shorter
    have := skip_shorter_of_skip colon
    have := derived.shorter
    have := skip_shorter_of_skip comma
    have read := @ih fuel (by omega)
    simp only [Json.fields, string_eq_ok_iff.2 name, colon, read, comma]
    exact ih' (by omega)

/-! ## Deriving what is read

Every way in which the reader comes to a result is a rule of the grammar, if what it reads inside with
one step less is derived. -/

section

variable {fuel : Nat} {cs left : List Char}
  (inside : ∀ {p : Part} {cs left : List Char}, p.Read fuel cs left → Derives p cs left)
include inside

theorem Part.Read.derives_value {v : Value} (h : (Part.value v).Read (fuel + 1) cs left) :
    Derives (.value v) cs left := by
  simp only [Part.Read, Json.value] at h
  split at h
  case h_1 =>
    obtain ⟨⟨s, left'⟩, read, same⟩ := map_eq_ok_iff.1 h
    cases same
    exact .text (string_eq_ok_iff.1 read)
  case h_2 =>
    split at h
    · rename_i close
      cases h
      exact .emptyObject close
    · obtain ⟨⟨fs, left'⟩, read, same⟩ := map_eq_ok_iff.1 h
      cases same
      exact .object (inside (p := .fields [] fs) read)
  case h_3 =>
    split at h
    · rename_i close
      cases h
      exact .emptyList close
    · obtain ⟨⟨vs, left'⟩, read, same⟩ := map_eq_ok_iff.1 h
      cases same
      exact .list (inside (p := .items vs) read)
  case h_10 => exact .number h
  -- The other six are words.
  all_goals cases h
  · exact .word (w := "null") (by simp [words])
  · exact .word (w := "true") (by simp [words])
  · exact .word (w := "false") (by simp [words])
  · exact .word (w := "NaN") (by simp [words])
  · exact .word (w := "Infinity") (by simp [words])
  · exact .word (w := "-Infinity") (by simp [words])

theorem Part.Read.derives_items {vs : List Value} (h : (Part.items vs).Read (fuel + 1) cs left) :
    Derives (.items vs) cs left := by
  simp only [Part.Read, Json.items] at h
  split at h
  · cases h
  · rename_i v rest read
    have item := inside (p := .value v) read
    split at h
    · rename_i close
      cases h
      exact .lastItem item close
    · rename_i more comma
      obtain ⟨⟨us, left'⟩, read', same⟩ := map_eq_ok_iff.1 h
      cases same
      exact .item item comma (inside (p := .items us) read')
    · cases h

theorem Part.Read.derives_fields {sofar all : Table Value} (h : (Part.fields sofar all).Read (fuel + 1) cs left) :
    Derives (.fields sofar all) cs left := by
  simp only [Part.Read, Json.fields] at h
  split at h
  · split at h
    · cases h
    · rename_i key afterKey read
      have name := string_eq_ok_iff.1 read
      split at h
      · rename_i beforeValue colon
        split at h
        · cases h
        · rename_i v afterValue read
          have value := inside (p := .value v) read
          split at h
          · rename_i close
            cases h
            exact .lastField name colon value close
          · rename_i more comma
            exact .field name colon value comma (inside (p := .fields (sofar.set key v) all) h)
          · cases h
      · cases h
  · cases h

end

/-- **The reader accepts nothing else.** -/
theorem derives_of_read {fuel : Nat} {p : Part} {cs left : List Char} (h : p.Read fuel cs left) :
    Derives p cs left := by
  induction fuel generalizing p cs left with
  | zero => cases p <;> cases h
  | succ fuel ih =>
    cases p with
    | value v => exact Part.Read.derives_value ih h
    | items vs => exact Part.Read.derives_items ih h
    | fields sofar all => exact Part.Read.derives_fields ih h

/-- **A text is a document** of a value: it is the value and nothing more, with blanks around. -/
def Document (s : String) (v : Value) : Prop :=
  s.toList.head? ≠ some (Char.ofNat 0xfeff) ∧
    ∃ left, Derives (.value v) (skip s.toList) left ∧ skip left = []

theorem document_eq_ok_iff {s : String} {v : Value} :
    document s.toList = .ok v ↔ Document s v := by
  have enough : 2 * (skip s.toList).length + 1 ≤ 2 * s.toList.length + 2 := by
    have := skip_length_le s.toList
    omega
  rw [document, Document]
  split
  · rename_i mark
    exact ⟨nofun, fun h => absurd mark h.1⟩
  · rename_i plain
    constructor
    · intro h
      split at h
      · cases h
      · rename_i u left read
        split at h
        · rename_i stop
          cases h
          exact ⟨plain, left, derives_of_read (p := .value v) read, stop⟩
        · cases h
    · rintro ⟨-, left, derived, stop⟩
      have read : value (2 * s.toList.length + 2) (skip s.toList) = .ok (v, left) :=
        derived.read enough
      simp only [read, stop]

/-- **A text is read as a value exactly if it is a document of it.** -/
theorem read_eq_ok_iff {s : String} {v : Value} : read s = .ok v ↔ Document s v := by
  rw [← document_eq_ok_iff, read, mapError_eq_ok_iff]

/-- A text is a document of at most one value. -/
theorem Document.unique {s : String} {v w : Value} (h : Document s v) (h' : Document s w) : v = w :=
  Except.ok.inj ((read_eq_ok_iff.2 h).symm.trans (read_eq_ok_iff.2 h'))

end CallTree.Json
