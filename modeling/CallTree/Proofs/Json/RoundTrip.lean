/-
# CallTree.Proofs.Json.RoundTrip — documents that are written are read back.

What a document says of a value is less than the value: a tuple is said as a list, and a key that is repeated
is said with all its values, of which the last one is read (`Value.asRead`). It says all the rest. In every
style with blanks of layout only, what is printed derives as that (`readsAs_of_print`), up to units that no
floating-point number has (`Value.Readable`).

In a style with words for what is no number there is a document of every value but of those with octet
strings, dates, patterns, things of the host or whole numbers of too many digits in them
(`print_isOk_iff_of_extended`).
-/
import CallTree.Proofs.Json.Numerals

namespace CallTree

namespace Value

/-- **A value that no document can say**, in whatever style, and the fault that this is. -/
inductive Wordless : Value → Json.PrintFault → Prop where
  | octets (bs : List UInt8) : Wordless (.octets bs) (.kind .octets)
  | date (text : String) (hasTime : Bool) : Wordless (.date text hasTime) (.kind (.date hasTime))
  | pattern (p : Pattern) : Wordless (.pattern p) (.kind .pattern)
  | foreign (name : String) (parts : List (String × Value)) :
      Wordless (.foreign name parts) (.kind (.foreign name))
  | whole {n : Int} (long : ¬ Decimal.Short n) : Wordless (.int n) (.whole .tooManyDigits)

/-- **Every part of a value can be said.** -/
def Spoken (v : Value) : Prop := ∀ w, PartOf w v → ∀ f, ¬ w.Wordless f

/-- A part that is a floating-point number is read back from its text. Every such number of the host is
genuine. -/
def Readable : Value → Prop
  | .float x => x.Genuine
  | _ => True

/-! ## What is read -/

mutual

/-- **The value that a document of a value is read as.** -/
def asRead : Value → Value
  | .list xs => .list (asReadItems xs)
  | .tuple xs => .list (asReadItems xs)
  | .object fs => .object (Table.ofList (asReadFields fs))
  | v => v

/-- The values that documents of items are read as. -/
def asReadItems : List Value → List Value
  | [] => []
  | v :: rest => asRead v :: asReadItems rest

/-- The fields that documents of fields are read as. -/
def asReadFields : List (String × Value) → List (String × Value)
  | [] => []
  | (key, v) :: rest => (key, asRead v) :: asReadFields rest

end

theorem asReadItems_eq (xs : List Value) : asReadItems xs = xs.map asRead := by
  induction xs with
  | nil => rw [asReadItems, List.map_nil]
  | cons v rest ih => rw [asReadItems, ih, List.map_cons]

theorem asReadFields_eq (fs : List (String × Value)) :
    asReadFields fs = fs.map fun f => (f.1, asRead f.2) := by
  induction fs with
  | nil => rw [asReadFields, List.map_nil]
  | cons f rest ih =>
    obtain ⟨key, v⟩ := f
    rw [asReadFields, ih, List.map_cons]

theorem asRead_of_items {v : Value} {xs : List Value} (has : v.items? = some xs) :
    v.asRead = .list (xs.map asRead) := by
  rw [← asReadItems_eq]
  cases v <;> cases has <;> rw [asRead]

theorem asRead_object (fs : List (String × Value)) :
    (Value.object fs).asRead = .object (Table.ofList (fs.map fun f => (f.1, asRead f.2))) := by
  rw [asRead, asReadFields_eq]

/-- A part of a value of which a document says everything. -/
def Kept : Value → Prop
  | .tuple _ => False
  | .object fs => (Table.keys fs).Nodup
  | _ => True

/-- **A value without tuples and repeated keys** is read as itself. -/
theorem asRead_eq_self {v : Value} (kept : ∀ w, PartOf w v → w.Kept) : v.asRead = v := by
  induction v using Json.induction_parts with
  | step v items fields =>
    cases v with
    | list xs =>
      have each : ∀ x ∈ xs, x.asRead = x := fun x mem =>
        items xs rfl x mem fun w part => kept w (.item mem part)
      rw [asRead_of_items rfl, List.map_congr_left each, List.map_id']
    | object fs =>
      have each : ∀ f ∈ fs, (f.1, f.2.asRead) = f := fun f mem => by
        rw [fields f mem fun w part => kept w (.field mem part)]
      have once : Table.ofList fs = fs := @Table.merge_of_nodup _ [] fs (kept _ .self)
      rw [asRead_object, List.map_congr_left each, List.map_id', once]
    | tuple xs => exact (kept _ .self).elim
    | _ => rfl

end Value

namespace Json

open Value

variable {style : Style} {level : Nat}

/-! ## Which values can be printed -/

theorem printItems_error {xs : List Value} {f : PrintFault} (h : printItems style level xs = .error f) :
    ∃ x ∈ xs, print style level x = .error f := by
  induction xs with
  | nil => cases h
  | cons x rest ih =>
    rw [printItems] at h
    cases first : print style level x with
    | error g =>
      rw [first] at h
      cases h
      exact ⟨x, List.mem_cons_self, first⟩
    | ok s =>
      rw [first] at h
      obtain ⟨y, mem, fails⟩ := ih (error_of_map h)
      exact ⟨y, List.mem_cons_of_mem x mem, fails⟩

theorem printFields_error {fs : Table Value} {f : PrintFault}
    (h : printFields style level fs = .error f) : ∃ x ∈ fs, print style level x.2 = .error f := by
  induction fs with
  | nil => cases h
  | cons x rest ih =>
    obtain ⟨key, v⟩ := x
    rw [printFields] at h
    cases first : print style level v with
    | error g =>
      rw [first] at h
      cases h
      exact ⟨(key, v), List.mem_cons_self, first⟩
    | ok s =>
      rw [first] at h
      obtain ⟨y, mem, fails⟩ := ih (error_of_map h)
      exact ⟨y, List.mem_cons_of_mem _ mem, fails⟩

theorem print_object_eq_ok_iff {fs : Table Value} {s : String} : print style level (.object fs) = .ok s ↔
    ∃ ss, List.Forall₂ (FieldText style (level + 1)) fs ss ∧ bracketed style level "\x7b" "\x7d" ss = s := by
  rw [print, map_eq_ok_iff]
  simp only [printFields_eq_ok_iff]

/-- **What is not printed** has a part that no document can say, and the fault is that of this part. -/
theorem print_error (extended : style.extended = true) {v : Value} {f : PrintFault}
    (h : print style level v = .error f) : ∃ w, PartOf w v ∧ w.Wordless f := by
  induction v using induction_parts generalizing level with
  | step v items fields =>
    have inside {xs : List Value} (has : v.items? = some xs)
        (fails : printItems style (level + 1) xs = .error f) : ∃ w, PartOf w v ∧ w.Wordless f := by
      obtain ⟨x, mem, fails⟩ := printItems_error fails
      obtain ⟨w, part, wordless⟩ := items xs has x mem fails
      exact ⟨w, (partOf_items_iff has).2 (.inr ⟨x, mem, part⟩), wordless⟩
    cases v with
    | list xs => exact inside rfl (error_of_map h)
    | tuple xs => exact inside rfl (error_of_map h)
    | object fs =>
      obtain ⟨x, mem, fails⟩ := printFields_error (error_of_map h)
      obtain ⟨w, part, wordless⟩ := fields x mem fails
      exact ⟨w, .field mem part, wordless⟩
    | int n =>
      by_cases short : Decimal.Short n
      · rw [print, Decimal.whole_of_short short] at h
        cases h
      · rw [print, Decimal.whole_of_long short] at h
        cases h
        exact ⟨_, .self, .whole short⟩
    | float x =>
      cases x <;> simp [print, floatText, extended] at h
    | octets bs =>
      cases h
      exact ⟨_, .self, .octets bs⟩
    | date text hasTime =>
      cases h
      exact ⟨_, .self, .date text hasTime⟩
    | pattern p =>
      cases h
      exact ⟨_, .self, .pattern p⟩
    | foreign name parts =>
      cases h
      exact ⟨_, .self, .foreign name parts⟩
    | _ => cases h

/-- **What is printed** has no part that no document can say. -/
theorem spoken_of_print {v : Value} {s : String} (prints : print style level v = .ok s) : v.Spoken := by
  induction v using induction_parts generalizing level s with
  | step v items fields =>
    intro w part f
    have self : w = v → ¬ w.Wordless f := by
      rintro rfl wordless
      cases wordless with
      | whole long => exact long (print_int_eq_ok_iff.1 prints).1
      | _ => cases prints
    have inside {xs : List Value} (has : v.items? = some xs) : ¬ w.Wordless f := by
      obtain ⟨ss, each, -⟩ := (print_items_eq_ok_iff has).1 prints
      rcases (partOf_items_iff has).1 part with same | ⟨x, mem, inner⟩
      · exact self same
      · obtain ⟨t, -, printed⟩ := Table.exists_of_mem_forall₂ each.flip mem
        exact items xs has x mem printed w inner f
    cases v with
    | list xs => exact inside rfl
    | tuple xs => exact inside rfl
    | object fs =>
      obtain ⟨ss, each, -⟩ := print_object_eq_ok_iff.1 prints
      rcases partOf_object_iff.1 part with same | ⟨x, mem, inner⟩
      · exact self same
      · obtain ⟨_, -, t, printed, -⟩ := Table.exists_of_mem_forall₂ each.flip mem
        exact fields x mem printed w inner f
    | _ =>
      cases part
      exact self rfl

/-- **In a style with words for what is no number**, a value is printed exactly if all of it can be said. -/
theorem print_isOk_iff_of_extended (extended : style.extended = true) {v : Value} :
    (∃ s, print style level v = .ok s) ↔ v.Spoken := by
  constructor
  · rintro ⟨s, prints⟩
    exact spoken_of_print prints
  · intro spoken
    cases prints : print style level v with
    | ok s => exact ⟨s, rfl⟩
    | error f =>
      obtain ⟨w, part, wordless⟩ := print_error extended prints
      exact absurd wordless (spoken w part f)

/-! ## Layout -/

/-- **A style in which there is nothing but layout** around the marks that part items and fields. -/
structure Style.Spaced (style : Style) : Prop where
  comma : ∃ blanks, style.itemMark.toList = ',' :: blanks ∧ ∀ c ∈ blanks, isLayout c = true
  colon : ∃ blanks, style.keyMark.toList = ':' :: blanks ∧ ∀ c ∈ blanks, isLayout c = true

theorem spaced_of_mem : ∀ style ∈ styles, style.Spaced := by
  simp only [styles, List.forall_mem_cons]
  have blank {blanks : List Char} (layout : blanks.all isLayout = true) : ∀ c ∈ blanks, isLayout c = true :=
    List.all_eq_true.1 layout
  exact ⟨⟨⟨_, rfl, blank rfl⟩, _, rfl, blank rfl⟩, ⟨⟨_, rfl, blank rfl⟩, _, rfl, blank rfl⟩,
    ⟨⟨_, rfl, blank rfl⟩, _, rfl, blank rfl⟩, List.forall_mem_nil _⟩

theorem Style.Spaced.regular (spaced : style.Spaced) : style.Regular := by
  obtain ⟨blanks, comma, -⟩ := spaced.comma
  exact ⟨blanks, comma⟩

/-- A text that starts with no layout. -/
def Solid (cs : List Char) : Prop := ∃ c rest, cs = c :: rest ∧ isLayout c = false

theorem Derives.solid {p : Part} {cs left : List Char} (h : Derives p cs left) : Solid cs := by
  obtain ⟨c, rest, same, opening⟩ := h.opening
  refine ⟨c, rest, same, ?_⟩
  cases layout : isLayout c with
  | false => rfl
  | true => exact absurd (blank_of_layout layout) (by simp [opening.1])

/-- Layout is skipped. -/
theorem skip_append {blanks cs : List Char} (layout : ∀ c ∈ blanks, isLayout c = true) (solid : Solid cs) :
    skip (blanks ++ cs) = cs := by
  obtain ⟨c, rest, rfl, visible⟩ := solid
  rw [skip, List.dropWhile_append_of_pos layout, List.dropWhile_cons_of_neg]
  simp [visible]

theorem layout_line (style : Style) (level : Nat) : ∀ c ∈ (style.line level).toList, isLayout c = true := by
  unfold Style.line
  split
  · rw [String.toList_ofList, List.forall_mem_cons]
    refine ⟨by decide, fun c mem => ?_⟩
    rw [List.eq_of_mem_replicate mem]
    decide
  · exact nofun

/-! ## Reading what is printed -/

/-- **A text is read as a value**, whatever may stand behind it. -/
def ReadsAs (s : List Char) (v : Value) : Prop := ∀ left, Ends left → Derives (.value v) (s ++ left) left

/-- The line end in front of what closes a bracket is skipped. -/
theorem skip_closing (style : Style) (level : Nat) {closing : Char} (solid : isLayout closing = false)
    (left : List Char) : skip ((style.line level).toList ++ closing :: left) = closing :: left :=
  skip_append (layout_line style level) ⟨closing, left, rfl, solid⟩

/-- A comma, and the layout behind it up to the next text. -/
theorem skip_joined (spaced : style.Spaced) {s : String} {ss : List String} {tail : List Char}
    (solid : Solid (s.toList ++ (joined style level ss ++ tail))) :
    ∃ more, skip (joined style level (s :: ss) ++ tail) = ',' :: more ∧
      skip more = s.toList ++ (joined style level ss ++ tail) := by
  obtain ⟨blanks, comma, layout⟩ := spaced.comma
  have whole : joined style level (s :: ss) ++ tail =
      ',' :: (blanks ++ (style.line level).toList ++ (s.toList ++ (joined style level ss ++ tail))) := by
    simp [joined, comma]
  rw [whole]
  refine ⟨_, rfl, skip_append ?_ solid⟩
  exact List.forall_mem_append.2 ⟨layout, layout_line style level⟩

/-- **Items are read one after the other.** -/
theorem derives_items (spaced : style.Spaced) {v : Value} {vs : List Value} {s : String} {ss : List String}
    (each : List.Forall₂ (fun v s => ReadsAs s.toList v) (v :: vs) (s :: ss)) (left : List Char) :
    Derives (.items (v :: vs)) (s.toList ++ (joined style (level + 1) ss ++
      ((style.line level).toList ++ ']' :: left))) left := by
  have closes := closes_line style level (.inl rfl) left
  induction vs generalizing v s ss with
  | nil =>
    obtain ⟨first, rest⟩ := List.forall₂_cons.1 each
    cases rest
    have ends := ends_joined spaced.regular (level + 1) [] closes
    exact .lastItem (first _ ends) (skip_closing style level (by decide) left)
  | cons w vs ih =>
    obtain ⟨first, rest⟩ := List.forall₂_cons.1 each
    cases ss with
    | nil => cases rest
    | cons t ss =>
      have others := ih rest
      obtain ⟨more, comma, behind⟩ := skip_joined spaced others.solid
      refine .item (first _ (ends_joined spaced.regular _ _ closes)) comma ?_
      rw [behind]
      exact others

/-- A text of a field, with the value that it is read as. -/
def FieldReadsAs (style : Style) (f : String × Value) (s : String) : Prop :=
  ∃ t, s = fieldText style f.1 t ∧ ReadsAs t.toList f.2

/-- The parts of the text of a field. -/
theorem toList_fieldText (spaced : style.Spaced) (key t : String) (tail : List Char) :
    ∃ blanks, (∀ c ∈ blanks, isLayout c = true) ∧ (fieldText style key t).toList ++ tail =
      '\x22' :: (key.toList.flatMap (stringChar style.escapes) ++ '\x22' ::
        ':' :: (blanks ++ (t.toList ++ tail))) := by
  obtain ⟨blanks, colon, layout⟩ := spaced.colon
  refine ⟨blanks, layout, ?_⟩
  simp [fieldText, toList_quoted, colon]

/-- **Fields are read one after the other**, each written into the table of those before it. -/
theorem derives_fields (spaced : style.Spaced) {f : String × Value} {fs : List (String × Value)}
    {s : String} {ss : List String} (each : List.Forall₂ (FieldReadsAs style) (f :: fs) (s :: ss))
    (sofar : Table Value) (left : List Char) :
    Derives (.fields sofar (sofar.merge (f :: fs))) (s.toList ++ (joined style (level + 1) ss ++
      ((style.line level).toList ++ '\x7d' :: left))) left := by
  have closes := closes_line style level (.inr rfl) left
  induction fs generalizing f s ss sofar with
  | nil =>
    obtain ⟨⟨t, rfl, value⟩, rest⟩ := List.forall₂_cons.1 each
    cases rest
    obtain ⟨blanks, layout, text⟩ := toList_fieldText spaced f.1 t
      (joined style (level + 1) [] ++ ((style.line level).toList ++ '\x7d' :: left))
    have derived := value _ (ends_joined spaced.regular (level + 1) [] closes)
    rw [text]
    refine .lastField (stringText_quoted _ _ _) rfl ?_ (skip_closing style level (by decide) left)
    rw [skip_append layout derived.solid]
    exact derived
  | cons g fs ih =>
    obtain ⟨⟨t, rfl, value⟩, rest⟩ := List.forall₂_cons.1 each
    cases ss with
    | nil => cases rest
    | cons u ss =>
      have others := ih rest (sofar.set f.1 f.2)
      obtain ⟨more, comma, behind⟩ := skip_joined spaced others.solid
      obtain ⟨blanks, layout, text⟩ := toList_fieldText spaced f.1 t
        (joined style (level + 1) (u :: ss) ++ ((style.line level).toList ++ '\x7d' :: left))
      have derived := value _ (ends_joined spaced.regular (level + 1) (u :: ss) closes)
      rw [text]
      refine .field (v := f.2) (stringText_quoted _ _ _) rfl ?_ comma ?_
      · rw [skip_append layout derived.solid]
        exact derived
      · rw [behind]
        exact others

/-- What stands between brackets, and behind them. -/
theorem toList_bracketed_append (opening closing : Char) (first : String) (rest : List String)
    (left : List Char) :
    (bracketed style level (.singleton opening) (.singleton closing) (first :: rest)).toList ++ left =
      opening :: ((style.line (level + 1)).toList ++ (first.toList ++
        (joined style (level + 1) rest ++ ((style.line level).toList ++ closing :: left)))) := by
  rw [toList_bracketed_cons]
  simp

/-- **A list is read** if its items are. -/
theorem readsAs_list (spaced : style.Spaced) {vs : List Value} {ss : List String}
    (each : List.Forall₂ (fun v s => ReadsAs s.toList v) vs ss) :
    ReadsAs (bracketed style level "[" "]" ss).toList (.list vs) := by
  intro left _
  cases each with
  | nil =>
    rw [toList_bracketed_nil]
    show Derives _ ('[' :: ']' :: left) left
    exact .emptyList rfl
  | @cons v s vs ss first rest =>
    have items := @derives_items style level spaced _ _ _ _ (.cons first rest) left
    rw [show "[" = String.singleton '[' from rfl, show "]" = String.singleton ']' from rfl,
      toList_bracketed_append]
    refine .list ?_
    rw [skip_append (layout_line style (level + 1)) items.solid]
    exact items

/-- **An object is read** if its fields are. -/
theorem readsAs_object (spaced : style.Spaced) {fs : List (String × Value)} {ss : List String}
    (each : List.Forall₂ (FieldReadsAs style) fs ss) :
    ReadsAs (bracketed style level "\x7b" "\x7d" ss).toList (.object (Table.ofList fs)) := by
  intro left _
  cases each with
  | nil =>
    rw [toList_bracketed_nil]
    show Derives _ ('\x7b' :: '\x7d' :: left) left
    exact .emptyObject rfl
  | @cons f s fs ss first rest =>
    have fields := @derives_fields style level spaced _ _ _ _ (.cons first rest) [] left
    rw [show "\x7b" = String.singleton '\x7b' from rfl, show "\x7d" = String.singleton '\x7d' from rfl,
      toList_bracketed_append]
    refine .object ?_
    rw [skip_append (layout_line style (level + 1)) fields.solid]
    exact fields

/-- **What is printed is read back**, up to what a document does not say. -/
theorem readsAs_of_print (spaced : style.Spaced) {v : Value} {s : String}
    (readable : ∀ w, PartOf w v → w.Readable) (prints : print style level v = .ok s) :
    ReadsAs s.toList v.asRead := by
  induction v using induction_parts generalizing level s with
  | step v items fields =>
    have inside {xs : List Value} (has : v.items? = some xs) : ReadsAs s.toList v.asRead := by
      obtain ⟨ss, each, rfl⟩ := (print_items_eq_ok_iff has).1 prints
      have below (x : Value) (mem : x ∈ xs) (t : String) (printed : ItemText style (level + 1) x t) :
          ReadsAs t.toList x.asRead := by
        refine items xs has x mem (fun w part => readable w ?_) printed
        exact (partOf_items_iff has).2 (.inr ⟨x, mem, part⟩)
      rw [asRead_of_items has]
      refine readsAs_list spaced ?_
      rw [List.forall₂_map_left_iff]
      exact ((List.forall₂_and_left _ _).2 ⟨below, each⟩).imp fun x t both => both.1 t both.2
    have word {w : String} {v : Value} (mem : (w, v) ∈ words) : ReadsAs w.toList v :=
      fun left _ => .word mem
    cases v with
    | null =>
      cases prints
      exact word (v := .null) (by simp [words])
    | bool b =>
      cases prints
      cases b with
      | false => exact word (w := "false") (v := .bool false) (by simp [words])
      | true => exact word (w := "true") (v := .bool true) (by simp [words])
    | int n =>
      obtain ⟨short, rfl⟩ := print_int_eq_ok_iff.1 prints
      exact fun left ends => derives_int short ends
    | float x =>
      rw [eq_document prints]
      exact fun left ends => derives_float (readable _ .self) ends
    | text t =>
      cases prints
      intro left _
      rw [toList_quoted, List.cons_append, List.append_assoc]
      exact .text (stringText_quoted _ _ _)
    | list xs => exact inside rfl
    | tuple xs => exact inside rfl
    | object fs =>
      obtain ⟨ss, each, rfl⟩ := print_object_eq_ok_iff.1 prints
      have below (f : String × Value) (mem : f ∈ fs) (t : String)
          (printed : FieldText style (level + 1) f t) : FieldReadsAs style (f.1, f.2.asRead) t := by
        obtain ⟨u, printed, rfl⟩ := printed
        exact ⟨u, rfl, fields f mem (fun w part => readable w (.field mem part)) printed⟩
      rw [asRead_object]
      refine readsAs_object spaced ?_
      rw [List.forall₂_map_left_iff]
      exact ((List.forall₂_and_left _ _).2 ⟨below, each⟩).imp fun f t both => both.1 t both.2
    | _ => cases prints

/-- **A document that is written, and a line end or none behind it, is read back.** -/
theorem read_of_write (spaced : style.Spaced) {v : Value} {s : String}
    (readable : ∀ w, PartOf w v → w.Readable) (written : write style v = .ok s) {behind : String}
    (ends : Ends behind.toList) (layout : ∀ c ∈ behind.toList, isLayout c = true) :
    read (s ++ behind) = .ok v.asRead := by
  have derived := readsAs_of_print spaced readable written behind.toList ends
  obtain ⟨c, rest, start, opening⟩ := derived.opening
  rw [read_eq_ok_iff, Document, String.toList_append]
  refine ⟨?_, behind.toList, ?_, List.dropWhile_eq_nil_iff.2 layout⟩
  · rw [start]
    exact fun mark => opening.2.2 (Option.some.inj mark)
  · rw [start, skip_of_opening opening, ← start]
    exact derived

/-! ## Values that have been read -/

/-- A whole number that has been read has not too many digits, and neither has the one below zero. -/
theorem writable_of_digits {ds : List Char} (digits : ∀ c ∈ ds, c.isDigit = true) {n : Nat}
    (few : Reading.natUpToLimit ds = .ok n) (negative : Bool) :
    (Value.int (if negative then -(n : Int) else n)).Writable := by
  have magnitude : (if negative then -(n : Int) else n).natAbs = n := by cases negative <;> simp
  rw [writable_int_iff, Decimal.short_iff, magnitude]
  unfold Reading.natUpToLimit at few
  split at few
  · cases few
  · rename_i short
    cases few
    exact Nat.lt_of_lt_of_le (natOf_lt digits) (Nat.pow_le_pow_right (by decide) (Nat.not_lt.1 short))

/-- A number of a document has not too many digits. -/
theorem writable_of_number {cs left : List Char} {v : Value} (h : number cs = .ok (v, left)) : v.Writable := by
  obtain ⟨wholes, -, -, -, value⟩ := numberText_of_number h
  rename_i negative cs whole afterWhole fraction afterFraction e
  have float {x : Binary64} : (Value.float x).Writable := writable_of_kind (by simp [kind])
  unfold numberValue at value
  split at value
  · split at value
    · split at value
      · rename_i n few
        cases value
        have digits := digits_wholeDigits cs
        rw [wholes] at digits
        exact writable_of_digits digits few negative
      · cases value
    · cases value
      exact float
  · cases value
    exact float

/-- What a part of a document holds can be written. -/
def Part.Writable : Part → Prop
  | .value v => v.Writable
  | .items vs => ∀ v ∈ vs, v.Writable
  | .fields sofar all => (∀ f ∈ sofar, f.2.Writable) → ∀ f ∈ all, f.2.Writable

theorem writable_set {fs : Table Value} (before : ∀ f ∈ fs, f.2.Writable) (key : String) {v : Value}
    (new : v.Writable) : ∀ f ∈ fs.set key v, f.2.Writable := by
  intro f mem
  rcases Table.mem_set mem with rfl | old
  · exact new
  · exact before f old

theorem Derives.writable {p : Part} {cs left : List Char} (h : Derives p cs left) : p.Writable := by
  induction h with
  | word mem =>
    have plain : ∀ e ∈ words, e.2.kind ∉ [Kind.int, .list, .tuple, .object] := by decide
    exact writable_of_kind (plain _ mem)
  | number digits => exact writable_of_number digits
  | text _ => exact writable_text _
  | emptyList _ => exact (writable_items_iff rfl).2 (List.forall_mem_nil _)
  | list _ ih => exact (writable_items_iff rfl).2 ih
  | emptyObject _ => exact writable_object_iff.2 (List.forall_mem_nil _)
  | object _ ih => exact writable_object_iff.2 (ih (List.forall_mem_nil _))
  | lastItem _ _ ih => exact List.forall_mem_singleton.2 ih
  | item _ _ _ ih ih' => exact List.forall_mem_cons.2 ⟨ih, ih'⟩
  | lastField _ _ _ _ ih => exact fun before => writable_set before _ ih
  | field _ _ _ _ _ ih ih' => exact fun before => ih' (writable_set before _ ih)

/-- **What is read from a text can be written.** -/
theorem writable_of_read {s : String} {v : Value} (reads : read s = .ok v) : v.Writable := by
  obtain ⟨-, _, derived, -⟩ := read_eq_ok_iff.1 reads
  exact derived.writable

end Json

end CallTree
