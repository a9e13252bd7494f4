/-
# CallTree.Proofs.Json.Delimited — where the text of a value ends.

Behind the text of a value there can only be a comma, a line end, a closing bracket, or nothing (`Ends`).
No text of a value goes on as the text of another one (`parted`). So the text of a list or an object is cut
into those of its parts in one way, and two values have one text if and only if they are of the same form
and their parts have one text each (`alikeAt_items_iff`, `alikeAt_object_iff`), whatever the level of
nesting (`AlikeAt.atLevel`).
-/
import CallTree.Proofs.Json.Printer
import CallTree.Proofs.Json.Scalars
import CallTree.Proofs.Table

namespace CallTree.Json

/-! ## Behind a text -/

/-- The characters that may stand behind the text of a value. -/
def delimiters : List Char := [',', '\n', ']', '\x7d']

/-- **What may stand behind the text of a value**: a delimiter, or nothing. -/
def Ends (cs : List Char) : Prop := ∀ c rest, cs = c :: rest → c ∈ delimiters

/-- What may stand behind the last text between brackets: a line end or a bracket. -/
def Closes (cs : List Char) : Prop := ∃ c rest, cs = c :: rest ∧ c ∈ delimiters ∧ c ≠ ','

/-- A text that is no delimiter. -/
def Begins (cs : List Char) : Prop := ∃ c rest, cs = c :: rest ∧ c ∉ delimiters

/-- **Texts of which neither goes on as the other one.** -/
def Apart (s t : List Char) : Prop := ∀ x y, Ends x → Ends y → s ++ x = t ++ y → s = t

theorem not_plain : ∀ c ∈ delimiters, isPlain c = false := by
  simp only [delimiters, List.forall_mem_cons]
  exact ⟨rfl, rfl, rfl, rfl, nofun⟩

theorem Closes.ends {cs : List Char} (closes : Closes cs) : Ends cs := by
  obtain ⟨c, rest, rfl, mem, -⟩ := closes
  rintro _ _ ⟨⟩
  exact mem

theorem Bare.begins {cs : List Char} (bare : Bare cs) : Begins cs := by
  obtain ⟨c, rest, rfl⟩ := List.exists_cons_of_ne_nil bare.some
  refine ⟨c, rest, rfl, fun mem => ?_⟩
  have plain := bare.plain c List.mem_cons_self
  rw [not_plain c mem] at plain
  cases plain

/-- A word or number ends where its characters do. -/
theorem takeWhile_bare {cs x : List Char} (bare : Bare cs) (ends : Ends x) :
    (cs ++ x).takeWhile isPlain = cs := by
  rw [List.takeWhile_append_of_pos bare.plain]
  cases x with
  | nil => simp
  | cons c rest => simp [not_plain c (ends c rest rfl)]

theorem Bare.apart {s t : List Char} (one : Bare s) (other : Bare t) : Apart s t := by
  intro x y endX endY same
  rw [← takeWhile_bare one endX, same, takeWhile_bare other endY]

/-! ## Between brackets -/

/-- A style in which items are parted by commas. -/
structure Style.Regular (style : Style) : Prop where
  comma : ∃ rest, style.itemMark.toList = ',' :: rest

/-- The styles that there are. -/
def styles : List Style := [.message, .report, .compact]

theorem regular_of_mem : ∀ style ∈ styles, style.Regular := by
  simp only [styles, List.forall_mem_cons]
  exact ⟨⟨_, rfl⟩, ⟨_, rfl⟩, ⟨_, rfl⟩, nofun⟩

variable {style : Style} {level : Nat}

/-- The texts of the items behind the first one. -/
def joined (style : Style) (level : Nat) (ss : List String) : List Char :=
  ss.flatMap fun s => style.itemMark.toList ++ ((style.line level).toList ++ s.toList)

theorem toList_bracketed_nil (opening closing : String) :
    (bracketed style level opening closing []).toList = opening.toList ++ closing.toList :=
  String.toList_append

theorem toList_bracketed_cons (opening closing first : String) (rest : List String) :
    (bracketed style level opening closing (first :: rest)).toList =
      opening.toList ++ ((style.line (level + 1)).toList ++ (first.toList ++
        (joined style (level + 1) rest ++ ((style.line level).toList ++ closing.toList)))) := by
  have folded (front : String) : (rest.foldl
      (fun acc s => acc ++ style.itemMark ++ style.line (level + 1) ++ s) front).toList =
      front.toList ++ joined style (level + 1) rest := by
    induction rest generalizing front with
    | nil => simp [joined]
    | cons s rest ih => simp [ih, joined]
  simp [bracketed, folded]

theorem line_eq (style : Style) (level : Nat) :
    (style.line level).toList = [] ∨ ∃ rest, (style.line level).toList = '\n' :: rest := by
  unfold Style.line
  cases style.indent with
  | none => exact .inl rfl
  | some width =>
    right
    rw [String.toList_ofList]
    exact ⟨_, rfl⟩

theorem closes_line (style : Style) (level : Nat) {closing : Char} (bracket : closing = ']' ∨ closing = '\x7d')
    (x : List Char) : Closes ((style.line level).toList ++ closing :: x) := by
  rcases line_eq style level with none | ⟨rest, line⟩
  · rw [none, List.nil_append]
    rcases bracket with rfl | rfl <;> exact ⟨_, x, rfl, by decide, by decide⟩
  · rw [line]
    exact ⟨'\n', _, rfl, by decide, by decide⟩

theorem ends_joined (regular : style.Regular) (level : Nat) (ss : List String) {x : List Char}
    (closes : Closes x) : Ends (joined style level ss ++ x) := by
  cases ss with
  | nil => exact closes.ends
  | cons s rest =>
    obtain ⟨mark, comma⟩ := regular.comma
    intro c tail same
    simp only [joined, List.flatMap_cons, comma, List.cons_append, List.cons.injEq] at same
    rw [← same.1]
    decide

/-- **Items behind the first one** can be told from their texts. -/
theorem joined_append_inj (regular : style.Regular) {ss ts : List String} {x y : List Char}
    (apart : ∀ s ∈ ss, ∀ t ∈ ts, Apart s.toList t.toList) (closeX : Closes x) (closeY : Closes y)
    (same : joined style level ss ++ x = joined style level ts ++ y) : ss = ts := by
  -- Where one list goes on and the other does not, there would be a comma in place of what closes it.
  have further {s : String} {rest : List String} {x y : List Char} (closes : Closes x) :
      x ≠ joined style level (s :: rest) ++ y := by
    obtain ⟨mark, comma⟩ := regular.comma
    obtain ⟨c, tail, rfl, -, other⟩ := closes
    intro same
    simp only [joined, List.flatMap_cons, comma, List.cons_append, List.cons.injEq] at same
    exact other same.1
  induction ss generalizing ts with
  | nil =>
    cases ts with
    | nil => rfl
    | cons t ts => exact absurd same (further closeX)
  | cons s ss ih =>
    cases ts with
    | nil => exact absurd same.symm (further closeY)
    | cons t ts =>
      simp only [joined, List.flatMap_cons, List.append_assoc, List.append_cancel_left_eq] at same
      have here := apart s List.mem_cons_self t List.mem_cons_self _ _
        (ends_joined regular level ss closeX) (ends_joined regular level ts closeY) same
      rw [here] at same
      have below := ih (fun s mem t mem' => apart s (List.mem_cons_of_mem _ mem) t
        (List.mem_cons_of_mem _ mem')) (List.append_cancel_left same)
      rw [String.toList_inj.1 here, below]

/-- **Items between brackets** can be told from the text of all of them. -/
theorem bracketed_append_inj (regular : style.Regular) {opening closing : String}
    (bracket : closing = "]" ∨ closing = "\x7d") {ss ts : List String} {x y : List Char}
    (begins : ∀ s ∈ ss, Begins s.toList) (begins' : ∀ t ∈ ts, Begins t.toList)
    (apart : ∀ s ∈ ss, ∀ t ∈ ts, Apart s.toList t.toList)
    (same : (bracketed style level opening closing ss).toList ++ x =
      (bracketed style level opening closing ts).toList ++ y) : ss = ts := by
  obtain ⟨mark, closes, marked⟩ : ∃ mark, closing.toList = [mark] ∧ (mark = ']' ∨ mark = '\x7d') := by
    rcases bracket with rfl | rfl
    · exact ⟨']', rfl, .inl rfl⟩
    · exact ⟨'\x7d', rfl, .inr rfl⟩
  -- An item does not begin as what closes the brackets.
  have further {s : String} {x y : List Char} (begins : Begins s.toList) :
      mark :: x ≠ (style.line (level + 1)).toList ++ (s.toList ++ y) := by
    intro same
    rcases line_eq style (level + 1) with none | ⟨rest, line⟩
    · obtain ⟨c, tail, first, free⟩ := begins
      simp only [none, first, List.nil_append, List.cons_append, List.cons.injEq] at same
      rw [← same.1] at free
      rcases marked with rfl | rfl <;> exact free (by decide)
    · simp only [line, List.cons_append, List.cons.injEq] at same
      rcases marked with rfl | rfl <;> exact absurd same.1 (by decide)
  cases ss with
  | nil =>
    cases ts with
    | nil => rfl
    | cons t ts =>
      simp only [toList_bracketed_nil, toList_bracketed_cons, List.append_assoc, closes,
        List.append_cancel_left_eq, List.cons_append, List.nil_append] at same
      exact absurd same (further (begins' t List.mem_cons_self))
  | cons s ss =>
    cases ts with
    | nil =>
      simp only [toList_bracketed_nil, toList_bracketed_cons, List.append_assoc, closes,
        List.append_cancel_left_eq, List.cons_append, List.nil_append] at same
      exact absurd same.symm (further (begins s List.mem_cons_self))
    | cons t ts =>
      simp only [toList_bracketed_cons, List.append_assoc, closes, List.append_cancel_left_eq,
        List.cons_append, List.nil_append] at same
      have closeX := closes_line style level marked x
      have closeY := closes_line style level marked y
      have here := apart s List.mem_cons_self t List.mem_cons_self _ _
        (ends_joined regular _ ss closeX) (ends_joined regular _ ts closeY) same
      rw [here] at same
      have below := joined_append_inj regular (fun s mem t mem' => apart s (List.mem_cons_of_mem _ mem) t
        (List.mem_cons_of_mem _ mem')) closeX closeY (List.append_cancel_left same)
      rw [String.toList_inj.1 here, below]

/-! ## Texts of values -/

theorem printItems_eq_ok_iff {xs : List Value} {ss : List String} :
    printItems style level xs = .ok ss ↔ List.Forall₂ (fun v s => print style level v = .ok s) xs ss := by
  induction xs generalizing ss with
  | nil => simp [printItems, eq_comm]
  | cons v rest ih =>
    rw [printItems, List.forall₂_cons_left_iff]
    cases print style level v with
    | error e => simp
    | ok s =>
      simp only [map_eq_ok_iff, ih, Except.ok.injEq]
      constructor
      · rintro ⟨others, below, rfl⟩
        exact ⟨s, others, rfl, below, rfl⟩
      · rintro ⟨_, others, rfl, below, rfl⟩
        exact ⟨others, below, rfl⟩

/-- The text of a field with that of its value. -/
def fieldText (style : Style) (key s : String) : String := quoted style.escapes key ++ style.keyMark ++ s

theorem printFields_eq_ok_iff {fs : Table Value} {ss : List String} :
    printFields style level fs = .ok ss ↔ List.Forall₂
      (fun f s => ∃ t, print style level f.2 = .ok t ∧ s = fieldText style f.1 t) fs ss := by
  induction fs generalizing ss with
  | nil => simp [printFields, eq_comm]
  | cons f rest ih =>
    obtain ⟨key, v⟩ := f
    rw [printFields, List.forall₂_cons_left_iff]
    cases print style level v with
    | error e => simp
    | ok s =>
      simp only [map_eq_ok_iff, ih, Except.ok.injEq]
      constructor
      · rintro ⟨others, below, rfl⟩
        exact ⟨_, others, ⟨s, rfl, rfl⟩, below, rfl⟩
      · rintro ⟨_, others, ⟨_, rfl, rfl⟩, below, rfl⟩
        exact ⟨others, below, rfl⟩

/-- The forms that texts of values have. -/
inductive Form where
  | word
  | string
  | items
  | fields

/-- The form of a text that begins with a character. -/
def Form.ofHead (c : Char) : Form :=
  if c = '\x22' then .string else if c = '[' then .items else if c = '\x7b' then .fields else .word

/-- **The text of a value, by its form.** Words and numbers have one text at every level. -/
inductive Shape (style : Style) (level : Nat) : Form → Value → String → Prop where
  | word {v : Value} {s : String} (bare : Bare s.toList) (flat : ∀ level, print style level v = .ok s) :
      Shape style level .word v s
  | string (s : String) : Shape style level .string (.text s) (quoted style.escapes s)
  | items {v : Value} {xs : List Value} {ss : List String} (has : v.items? = some xs)
      (each : List.Forall₂ (fun v s => print style (level + 1) v = .ok s) xs ss) :
      Shape style level .items v (bracketed style level "[" "]" ss)
  | fields {fs : Table Value} {ss : List String} (each : List.Forall₂
      (fun f s => ∃ t, print style (level + 1) f.2 = .ok t ∧ s = fieldText style f.1 t) fs ss) :
      Shape style level .fields (.object fs) (bracketed style level "\x7b" "\x7d" ss)

theorem eq_document {x : Binary64} {s : String} (prints : floatText style x = .ok s) :
    s = Decimal.document x := by
  unfold floatText at prints
  split at prints
  · exact (Except.ok.inj prints).symm
  · split at prints
    · exact (Except.ok.inj prints).symm
    · cases prints

theorem print_int_eq_ok_iff {n : Int} {s : String} :
    print style level (.int n) = .ok s ↔ Decimal.Short n ∧ s = toString n := by
  rw [print, mapError_eq_ok_iff, Decimal.whole_eq_ok_iff]

theorem shape_of_print {v : Value} {s : String} (prints : print style level v = .ok s) :
    ∃ form, Shape style level form v s := by
  cases v with
  | null =>
    cases prints
    exact ⟨_, .word (bare_of_all (by decide) (by decide)) fun _ => rfl⟩
  | bool b =>
    cases prints
    exact ⟨_, .word (by cases b <;> exact bare_of_all (by decide) (by decide)) fun _ => rfl⟩
  | int n =>
    have bare : Bare s.toList := by
      rw [(print_int_eq_ok_iff.1 prints).2]
      exact bare_int n
    exact ⟨_, .word bare fun _ => prints⟩
  | float x =>
    have bare : Bare s.toList := by
      rw [eq_document prints]
      exact bare_document x
    exact ⟨_, .word bare fun _ => prints⟩
  | text s =>
    cases prints
    exact ⟨_, .string s⟩
  | list xs =>
    obtain ⟨ss, printed, rfl⟩ := map_eq_ok_iff.1 prints
    exact ⟨_, .items rfl (printItems_eq_ok_iff.1 printed)⟩
  | tuple xs =>
    obtain ⟨ss, printed, rfl⟩ := map_eq_ok_iff.1 prints
    exact ⟨_, .items rfl (printItems_eq_ok_iff.1 printed)⟩
  | object fs =>
    obtain ⟨ss, printed, rfl⟩ := map_eq_ok_iff.1 prints
    exact ⟨_, .fields (printFields_eq_ok_iff.1 printed)⟩
  | _ => cases prints

/-- What is between brackets begins with the opening one. -/
theorem toList_bracketed (opening closing : String) (ss : List String) :
    ∃ rest, (bracketed style level opening closing ss).toList = opening.toList ++ rest := by
  cases ss with
  | nil => exact ⟨_, toList_bracketed_nil opening closing⟩
  | cons s ss => exact ⟨_, toList_bracketed_cons opening closing s ss⟩

/-- The first character of a text is no delimiter, and tells its form. -/
theorem Shape.head {form : Form} {v : Value} {s : String} (shape : Shape style level form v s) :
    ∃ c rest, s.toList = c :: rest ∧ c ∉ delimiters ∧ Form.ofHead c = form := by
  cases shape with
  | word bare _ =>
    obtain ⟨c, rest, same, free⟩ := bare.begins
    refine ⟨c, rest, same, free, ?_⟩
    have plain := bare.plain c (by rw [same]; exact List.mem_cons_self)
    have other {d : Char} (mark : isPlain d = false) : c ≠ d := by
      rintro rfl
      rw [mark] at plain
      cases plain
    rw [Form.ofHead, if_neg (other (by decide)), if_neg (other (by decide)), if_neg (other (by decide))]
  | string s => exact ⟨'\x22', _, toList_quoted _ s, by decide, rfl⟩
  | items _ _ =>
    obtain ⟨rest, same⟩ := @toList_bracketed style level "[" "]" _
    exact ⟨'[', rest, same, by decide, rfl⟩
  | fields _ =>
    obtain ⟨rest, same⟩ := @toList_bracketed style level "\x7b" "\x7d" _
    exact ⟨'\x7b', rest, same, by decide, rfl⟩

theorem begins_of_print {v : Value} {s : String} (prints : print style level v = .ok s) :
    Begins s.toList := by
  obtain ⟨form, shape⟩ := shape_of_print prints
  obtain ⟨c, rest, same, free, -⟩ := shape.head
  exact ⟨c, rest, same, free⟩

/-- Texts of one beginning have one form. -/
theorem Shape.form_unique {a b : Form} {v w : Value} {s t : String} (one : Shape style level a v s)
    (other : Shape style level b w t) {x y : List Char} (same : s.toList ++ x = t.toList ++ y) : a = b := by
  obtain ⟨c, rest, first, -, rfl⟩ := one.head
  obtain ⟨d, rest', first', -, rfl⟩ := other.head
  rw [first, first'] at same
  rw [(List.cons.inj same).1]

/-- The text that a part between brackets may have: one that begins as it should and does not go on as
that of another part. -/
structure Parted {α : Type} (text : α → String → Prop) (a : α) : Prop where
  begins : ∀ s, text a s → Begins s.toList
  apart : ∀ b s t, text a s → text b t → Apart s.toList t.toList

/-- **Parts between brackets** can be told from the text of all of them. -/
theorem texts_unique (regular : style.Regular) {opening closing : String}
    (bracket : closing = "]" ∨ closing = "\x7d") {α : Type} {text : α → String → Prop} {as bs : List α}
    (parted : ∀ a ∈ as, Parted text a) (begins : ∀ b s, text b s → Begins s.toList)
    {ss ts : List String} (each : List.Forall₂ text as ss) (each' : List.Forall₂ text bs ts)
    {x y : List Char} (same : (bracketed style level opening closing ss).toList ++ x =
      (bracketed style level opening closing ts).toList ++ y) : ss = ts := by
  refine bracketed_append_inj regular bracket ?_ ?_ ?_ same
  · intro s mem
    obtain ⟨a, -, has⟩ := Table.exists_of_mem_forall₂ each mem
    exact begins a s has
  · intro t mem
    obtain ⟨b, -, has⟩ := Table.exists_of_mem_forall₂ each' mem
    exact begins b t has
  · intro s mem t mem'
    obtain ⟨a, there, has⟩ := Table.exists_of_mem_forall₂ each mem
    obtain ⟨b, -, has'⟩ := Table.exists_of_mem_forall₂ each' mem'
    exact (parted a there).apart b s t has has'

mutual

/-- **Induction over the parts of a value.** -/
theorem induction_parts {P : Value → Prop} (step : ∀ v : Value,
    (∀ xs, v.items? = some xs → ∀ x ∈ xs, P x) → (∀ f ∈ v.fields, P f.2) → P v) : (v : Value) → P v
  | .list xs => by
    refine step _ ?_ nofun
    rintro _ ⟨⟩
    exact induction_items step xs
  | .tuple xs => by
    refine step _ ?_ nofun
    rintro _ ⟨⟩
    exact induction_items step xs
  | .object fs => step _ nofun (induction_fields step fs)
  | .null | .bool _ | .int _ | .float _ | .text _ | .octets _ | .date _ _ | .pattern _ | .foreign _ _ =>
    step _ nofun nofun

theorem induction_items {P : Value → Prop} (step : ∀ v : Value,
    (∀ xs, v.items? = some xs → ∀ x ∈ xs, P x) → (∀ f ∈ v.fields, P f.2) → P v) :
    (xs : List Value) → ∀ x ∈ xs, P x
  | [] => nofun
  | x :: xs => List.forall_mem_cons.2 ⟨induction_parts step x, induction_items step xs⟩

theorem induction_fields {P : Value → Prop} (step : ∀ v : Value,
    (∀ xs, v.items? = some xs → ∀ x ∈ xs, P x) → (∀ f ∈ v.fields, P f.2) → P v) :
    (fs : List (String × Value)) → ∀ f ∈ fs, P f.2
  | [] => nofun
  | (_, v) :: fs => List.forall_mem_cons.2 ⟨induction_parts step v, induction_fields step fs⟩

end

/-- The text of a value, as that of an item. -/
abbrev ItemText (style : Style) (level : Nat) (v : Value) (s : String) : Prop :=
  print style level v = .ok s

/-- The text of a value with its key, as that of a field. -/
abbrev FieldText (style : Style) (level : Nat) (f : String × Value) (s : String) : Prop :=
  ∃ t, print style level f.2 = .ok t ∧ s = fieldText style f.1 t

theorem begins_fieldText {f : String × Value} {s : String} (has : FieldText style level f s) :
    Begins s.toList := by
  obtain ⟨t, -, rfl⟩ := has
  refine ⟨'\x22', f.1.toList.flatMap (stringChar style.escapes) ++ ['\x22'] ++ style.keyMark.toList ++
    t.toList, ?_, by decide⟩
  simp only [fieldText, String.toList_append, toList_quoted, List.cons_append, List.append_assoc]

/-- A field does not go on as another one if its value does not go on as another value. -/
theorem parted_field {f : String × Value} (parted : Parted (ItemText style level) f.2) :
    Parted (FieldText style level) f := by
  refine ⟨fun s => begins_fieldText, ?_⟩
  rintro g _ _ ⟨s, printed, rfl⟩ ⟨t, printed', rfl⟩ x y endX endY same
  simp only [fieldText, String.toList_append, List.append_assoc] at same ⊢
  obtain ⟨keys, behind⟩ := quoted_append_inj same
  rw [keys, parted.apart g.2 s t printed printed' x y endX endY (List.append_cancel_left behind)]

/-- **No text of a value goes on as that of another one.** -/
theorem parted (regular : style.Regular) (v : Value) : ∀ level, Parted (ItemText style level) v := by
  -- By the parts of the value, since what is between its brackets is cut into their texts.
  induction v using induction_parts with
  | step v items fields =>
    intro level
    refine ⟨fun s => begins_of_print, ?_⟩
    intro w s t printed printed' x y endX endY same
    obtain ⟨form, shape⟩ := shape_of_print printed
    obtain ⟨form', shape'⟩ := shape_of_print printed'
    cases shape.form_unique shape' same
    cases shape with
    | word bare _ =>
      cases shape' with
      | word bare' _ => exact bare.apart bare' x y endX endY same
    | string s =>
      cases shape' with
      | string t => rw [(quoted_append_inj same).1]
    | items has each =>
      cases shape' with
      | items _ each' =>
        rw [texts_unique regular (.inl rfl) (fun a mem => items _ has a mem (level + 1))
          (fun _ _ => begins_of_print) each each' same]
    | fields each =>
      cases shape' with
      | fields each' =>
        rw [texts_unique regular (.inr rfl) (fun f mem => parted_field (fields f mem (level + 1)))
          (fun _ _ => begins_fieldText) each each' same]

/-! ## Values of one text -/

/-- Two values have one text at a level. -/
def AlikeAt (style : Style) (level : Nat) (v w : Value) : Prop :=
  ∃ s, print style level v = .ok s ∧ print style level w = .ok s

/-- **Two values have one text.** -/
abbrev SameText (style : Style) : Value → Value → Prop := AlikeAt style 0

theorem AlikeAt.symm {v w : Value} (alike : AlikeAt style level v w) : AlikeAt style level w v := by
  obtain ⟨s, one, other⟩ := alike
  exact ⟨s, other, one⟩

theorem print_items_eq_ok_iff {v : Value} {xs : List Value} (has : v.items? = some xs) {s : String} :
    print style level v = .ok s ↔
      ∃ ss, List.Forall₂ (ItemText style (level + 1)) xs ss ∧ bracketed style level "[" "]" ss = s := by
  cases v <;> cases has <;> rw [print, map_eq_ok_iff] <;> simp only [printItems_eq_ok_iff]

/-- **Lists have one text** if and only if each of their items has. -/
theorem alikeAt_items_iff (regular : style.Regular) {v w : Value} {xs ys : List Value}
    (has : v.items? = some xs) (has' : w.items? = some ys) :
    AlikeAt style level v w ↔ List.Forall₂ (AlikeAt style (level + 1)) xs ys := by
  have items : List.Forall₂ (AlikeAt style (level + 1)) xs ys ↔
      ∃ ss, List.Forall₂ (ItemText style (level + 1)) xs ss ∧
        List.Forall₂ (ItemText style (level + 1)) ys ss := Table.forall₂_through.symm
  rw [items]
  simp only [AlikeAt, print_items_eq_ok_iff has, print_items_eq_ok_iff has']
  constructor
  · rintro ⟨s, ⟨ss, each, rfl⟩, ts, each', same⟩
    have one := @texts_unique style level regular "[" "]" (.inl rfl) _ _ xs ys
      (fun x _ => parted regular x (level + 1)) (fun _ _ => begins_of_print) ss ts each each' [] []
      (by rw [same])
    exact ⟨ss, each, one ▸ each'⟩
  · rintro ⟨ss, each, each'⟩
    exact ⟨_, ⟨ss, each, rfl⟩, ss, each', rfl⟩

/-- Fields have one text if their keys are equal and their values have one text. -/
theorem fieldText_alike_iff {f g : String × Value} :
    (∃ s, FieldText style level f s ∧ FieldText style level g s) ↔
      f.1 = g.1 ∧ AlikeAt style level f.2 g.2 := by
  constructor
  · rintro ⟨_, ⟨s, printed, rfl⟩, t, printed', same⟩
    have texts := congrArg String.toList same
    simp only [fieldText, String.toList_append, List.append_assoc] at texts
    obtain ⟨keys, behind⟩ := quoted_append_inj texts
    rw [String.toList_inj.1 (List.append_cancel_left behind)] at printed
    exact ⟨keys, t, printed, printed'⟩
  · rintro ⟨keys, s, printed, printed'⟩
    exact ⟨_, ⟨s, printed, rfl⟩, s, printed', by rw [keys]⟩

/-- **Objects have one text** if and only if they have the same keys in the same order, and each of their
values has one text. -/
theorem alikeAt_object_iff (regular : style.Regular) {fs gs : Table Value} :
    AlikeAt style level (.object fs) (.object gs) ↔
      fs.Entrywise (fun _ => AlikeAt style (level + 1)) gs := by
  have printed {fs : Table Value} {s : String} : print style level (.object fs) = .ok s ↔
      ∃ ss, List.Forall₂ (FieldText style (level + 1)) fs ss ∧
        bracketed style level "\x7b" "\x7d" ss = s := by
    rw [print, map_eq_ok_iff]
    simp only [printFields_eq_ok_iff]
  have entries : fs.Entrywise (fun _ => AlikeAt style (level + 1)) gs ↔
      ∃ ss, List.Forall₂ (FieldText style (level + 1)) fs ss ∧
        List.Forall₂ (FieldText style (level + 1)) gs ss := by
    rw [Table.forall₂_through]
    simp only [Table.Entrywise, fieldText_alike_iff]
  rw [entries]
  simp only [AlikeAt, printed]
  constructor
  · rintro ⟨s, ⟨ss, each, rfl⟩, ts, each', same⟩
    have one := @texts_unique style level regular "\x7b" "\x7d" (.inr rfl) _ _ fs gs
      (fun f _ => parted_field (parted regular f.2 (level + 1))) (fun _ _ => begins_fieldText) ss ts each
      each' [] [] (by rw [same])
    exact ⟨ss, each, one ▸ each'⟩
  · rintro ⟨ss, each, each'⟩
    exact ⟨_, ⟨ss, each, rfl⟩, ss, each', rfl⟩

theorem alikeAt_text_iff {s t : String} : AlikeAt style level (.text s) (.text t) ↔ s = t := by
  constructor
  · rintro ⟨_, printed, printed'⟩
    cases printed
    have same := congrArg String.toList (Except.ok.inj printed')
    exact (@quoted_append_inj style.escapes s t [] [] (by rw [same])).1
  · rintro rfl
    exact ⟨_, rfl, rfl⟩

/-- A string and a list have different texts. -/
theorem not_alikeAt_items {s : String} {v : Value} {xs : List Value} (has : v.items? = some xs) :
    ¬ AlikeAt style level (.text s) v := by
  rintro ⟨_, printed, printed'⟩
  cases printed
  obtain ⟨ss, -, same⟩ := (print_items_eq_ok_iff has).1 printed'
  obtain ⟨rest, begins⟩ := @toList_bracketed style level "[" "]" ss
  rw [same, toList_quoted] at begins
  exact absurd (List.cons.inj begins).1 (by decide)

/-- **Values that have one text at one level** have one text at every level. -/
theorem AlikeAt.atLevel (regular : style.Regular) {v w : Value} (alike : AlikeAt style level v w)
    (level' : Nat) : AlikeAt style level' v w := by
  -- By the parts of the first value. The second one has the same form, since it begins in the same way.
  induction v using induction_parts generalizing w level level' with
  | step v items fields =>
    obtain ⟨s, printed, printed'⟩ := id alike
    obtain ⟨form, shape⟩ := shape_of_print printed
    obtain ⟨form', shape'⟩ := shape_of_print printed'
    cases @Shape.form_unique _ _ _ _ _ _ _ _ shape shape' [] [] rfl
    cases shape with
    | word _ flat =>
      cases shape' with
      | word _ flat' => exact ⟨s, flat level', flat' level'⟩
    | string t =>
      generalize same : quoted style.escapes t = text at shape'
      cases shape' with
      | string t' => exact alikeAt_text_iff.2 (alikeAt_text_iff.1 alike)
    | items has _ =>
      generalize same : bracketed style level "[" "]" _ = text at shape'
      cases shape' with
      | items has' _ =>
        refine (alikeAt_items_iff regular has has').2 ?_
        have each := (alikeAt_items_iff regular has has').1 alike
        have below (x : Value) (mem : x ∈ _) (y : Value) (alike : AlikeAt style (level + 1) x y) :=
          items _ has x mem alike (level' + 1)
        exact ((List.forall₂_and_left _ _).2 ⟨below, each⟩).imp fun x y both => both.1 y both.2
    | fields _ =>
      generalize same : bracketed style level "\x7b" "\x7d" _ = text at shape'
      cases shape' with
      | fields _ =>
        refine (alikeAt_object_iff regular).2 ?_
        exact ((alikeAt_object_iff regular).1 alike).imp fun f mem _ _ alike =>
          fields f mem alike (level' + 1)

/-- The level of nesting makes no difference. -/
theorem alikeAt_eq_sameText (regular : style.Regular) (level : Nat) :
    AlikeAt style level = SameText style := by
  funext v w
  exact propext ⟨fun alike => alike.atLevel regular 0, fun alike => alike.atLevel regular level⟩

theorem sameText_text_iff {s t : String} : SameText style (.text s) (.text t) ↔ s = t :=
  alikeAt_text_iff

theorem sameText_items_iff (regular : style.Regular) {v w : Value} {xs ys : List Value}
    (has : v.items? = some xs) (has' : w.items? = some ys) :
    SameText style v w ↔ List.Forall₂ (SameText style) xs ys := by
  rw [SameText, alikeAt_items_iff regular has has', alikeAt_eq_sameText regular]

theorem sameText_object_iff (regular : style.Regular) {fs gs : Table Value} :
    SameText style (.object fs) (.object gs) ↔ fs.Entrywise (fun _ => SameText style) gs := by
  rw [SameText, alikeAt_object_iff regular, alikeAt_eq_sameText regular]

end CallTree.Json
