/-
# CallTree.Proofs.Text.Replace — texts in texts.

A text occurs in another one as a run of consecutive characters, `old <:+: cs`. Replacing goes from occurrence
to occurrence (`replace_front`, `replace_cons`): where there is none it changes nothing
(`replace_of_not_infix`), and where there is just one it changes that one (`Once.replace_eq`). A character that
is not in the text that is looked for parts what stands before it from what stands behind it, for occurrences
and for replacing.

Characters may be written as themselves or as escapes. Then a text occurs in what is written if it occurs in
what it is written for, as long as no escape has a beginning of it (`Escapes.infix_flatMap_iff`).
-/
import Mathlib.Data.List.Infix
import CallTree.Text.Replace

namespace CallTree.Text

variable {old new : List Char}

/-! ## Occurrences -/

/-- Nothing that lacks a character goes on behind it. -/
theorem prefix_append_cons_iff {c : Char} (free : c ∉ old) {a b : List Char} :
    old <+: a ++ c :: b ↔ old <+: a := by
  refine ⟨fun front => ?_, fun front => front.trans (List.prefix_append a _)⟩
  induction a generalizing old with
  | nil =>
    cases old with
    | nil => exact List.nil_prefix
    | cons x rest =>
      -- The text would have to begin with the character.
      obtain ⟨rfl, -⟩ := List.cons_prefix_cons.1 front
      exact absurd List.mem_cons_self free
  | cons y a ih =>
    cases old with
    | nil => exact List.nil_prefix
    | cons x rest =>
      obtain ⟨rfl, below⟩ := List.cons_prefix_cons.1 front
      exact List.cons_prefix_cons.2 ⟨rfl, ih (fun inside => free (List.mem_cons_of_mem _ inside)) below⟩

/-- **A character that a text lacks** parts its occurrences. -/
theorem infix_append_cons_iff {c : Char} (free : c ∉ old) {a b : List Char} :
    old <:+: a ++ c :: b ↔ old <:+: a ∨ old <:+: b := by
  induction a with
  | nil =>
    rw [List.nil_append, List.infix_cons_iff, List.infix_nil]
    have here := prefix_append_cons_iff free (a := []) (b := b)
    rw [List.nil_append, List.prefix_nil] at here
    rw [here]
  | cons x a ih =>
    rw [List.cons_append, List.infix_cons_iff, List.infix_cons_iff, ih, ← List.cons_append,
      prefix_append_cons_iff free, or_assoc]

/-- What begins with another character is nowhere in a run without that character. -/
theorem infix_append_iff {h : Char} {t a b : List Char} (free : h ∉ a) :
    h :: t <:+: a ++ b ↔ h :: t <:+: b := by
  induction a with
  | nil => rfl
  | cons x a ih =>
    simp only [List.mem_cons, not_or] at free
    rw [List.cons_append, List.infix_cons_iff, ih free.2]
    refine or_iff_right fun front => ?_
    exact free.1 (List.cons_prefix_cons.1 front).1

/-! ## Replacing -/

/-- **Replace** every occurrence of a text. -/
abbrev replace (old new cs : List Char) : List Char := replaceFrom old new 0 cs

theorem toList_replaceAll (old new s : String) :
    (replaceAll old new s).toList = replace old.toList new.toList s.toList :=
  String.toList_ofList

/-- To skip characters is to drop them first. -/
theorem replaceFrom_eq (skip : Nat) (cs : List Char) :
    replaceFrom old new skip cs = replace old new (cs.drop skip) := by
  induction cs generalizing skip with
  | nil => cases skip <;> simp [replaceFrom]
  | cons c rest ih =>
    cases skip with
    | zero => rfl
    | succ n => exact ih n

/-- **Step.** An occurrence in front is replaced. -/
theorem replace_front (some_ : old ≠ []) (rest : List Char) :
    replace old new (old ++ rest) = new ++ replace old new rest := by
  obtain ⟨h, t, rfl⟩ := List.exists_cons_of_ne_nil some_
  have found : (h :: t).isPrefixOf (h :: (t ++ rest)) = true := by
    rw [List.isPrefixOf_iff_prefix]
    exact List.prefix_append (h :: t) rest
  rw [List.cons_append, replace, replaceFrom, found, if_pos (by simp), replaceFrom_eq]
  simp

/-- **Step.** Where there is no occurrence in front, a character stays. -/
theorem replace_cons {c : Char} {rest : List Char} (other : ¬ old <+: c :: rest) :
    replace old new (c :: rest) = c :: replace old new rest := by
  rw [replace, replaceFrom, if_neg]
  rw [Bool.and_eq_true, List.isPrefixOf_iff_prefix]
  exact fun both => other both.2

/-- **Induction from occurrence to occurrence.** -/
theorem replace_induction (some_ : old ≠ []) {P : List Char → Prop} (nil : P [])
    (found : ∀ rest, P rest → P (old ++ rest))
    (other : ∀ c rest, ¬ old <+: c :: rest → P rest → P (c :: rest)) (cs : List Char) : P cs := by
  -- By the length of the text, of which an occurrence takes something off.
  induction length : cs.length using Nat.strong_induction_on generalizing cs with
  | _ n ih =>
    subst length
    by_cases front : old <+: cs
    · obtain ⟨rest, rfl⟩ := front
      have positive := List.length_pos_iff.2 some_
      exact found rest (ih rest.length (by rw [List.length_append]; omega) rest rfl)
    · cases cs with
      | nil => exact nil
      | cons c rest => exact other c rest front (ih rest.length (by simp) rest rfl)

/-- **Without an occurrence** nothing changes. -/
theorem replace_of_not_infix {cs : List Char} (absent : ¬ old <:+: cs) : replace old new cs = cs := by
  induction cs with
  | nil => rfl
  | cons c rest ih =>
    rw [List.infix_cons_iff, not_or] at absent
    rw [replace_cons absent.1, ih absent.2]

/-- A run without the first character of what is looked for stays. -/
theorem replace_append {h : Char} {t a b : List Char} (free : h ∉ a) :
    replace (h :: t) new (a ++ b) = a ++ replace (h :: t) new b := by
  induction a with
  | nil => rfl
  | cons x a ih =>
    simp only [List.mem_cons, not_or] at free
    rw [List.cons_append, replace_cons, ih free.2, List.cons_append]
    exact fun front => free.1 (List.cons_prefix_cons.1 front).1

/-- **A character that is not looked for** parts what is replaced. -/
theorem replace_append_cons (some_ : old ≠ []) {c : Char} (free : c ∉ old) (a b : List Char) :
    replace old new (a ++ c :: b) = replace old new a ++ c :: replace old new b := by
  induction a using replace_induction some_ with
  | nil =>
    refine replace_cons fun front => some_ ?_
    have within := (prefix_append_cons_iff free (a := []) (b := b)).1 front
    exact List.prefix_nil.1 within
  | found rest ih => rw [List.append_assoc, replace_front some_, ih, replace_front some_, List.append_assoc]
  | other x rest other ih =>
    have apart : ¬ old <+: x :: (rest ++ c :: b) := by
      rw [← List.cons_append, prefix_append_cons_iff free]
      exact other
    rw [List.cons_append, replace_cons apart, ih, replace_cons other, List.cons_append]

/-- What is put in makes a text longer or shorter, as it is longer or shorter itself. -/
theorem length_replace (some_ : old ≠ []) (cs : List Char) :
    (old.length ≤ new.length → cs.length ≤ (replace old new cs).length) ∧
      (new.length ≤ old.length → (replace old new cs).length ≤ cs.length) := by
  induction cs using replace_induction some_ with
  | nil => exact ⟨fun _ => Nat.le_refl _, fun _ => Nat.le_refl _⟩
  | found rest ih =>
    rw [replace_front some_, List.length_append, List.length_append]
    exact ⟨fun le => Nat.add_le_add le (ih.1 le), fun le => Nat.add_le_add le (ih.2 le)⟩
  | other c rest other ih =>
    rw [replace_cons other, List.length_cons, List.length_cons]
    exact ⟨fun le => Nat.succ_le_succ (ih.1 le), fun le => Nat.succ_le_succ (ih.2 le)⟩

/-- **Replacing changes nothing** only where there is no occurrence, or if the same is put in. -/
theorem replace_eq_self_iff (some_ : old ≠ []) {cs : List Char} :
    replace old new cs = cs ↔ ¬ old <:+: cs ∨ new = old := by
  constructor
  · intro same
    by_cases absent : old <:+: cs
    · right
      induction cs using replace_induction some_ with
      | nil => exact absurd (List.infix_nil.1 absent) some_
      | found rest _ =>
        rw [replace_front some_] at same
        -- What follows the occurrence has grown or shrunk with it, so the two texts are of one length.
        obtain ⟨grows, shrinks⟩ := @length_replace old new some_ rest
        have lengths := congrArg List.length same
        rw [List.length_append, List.length_append] at lengths
        have equal : new.length = old.length := by
          rcases Nat.le_total old.length new.length with le | le
          · have := grows le
            omega
          · have := shrinks le
            omega
        exact (List.append_inj same equal).1
      | other c rest other ih =>
        rw [replace_cons other] at same
        exact ih (List.cons.inj same).2 ((List.infix_cons_iff.1 absent).resolve_left other)
    · exact .inl absent
  · rintro (absent | rfl)
    · exact replace_of_not_infix absent
    · induction cs using replace_induction some_ with
      | nil => rfl
      | found rest ih => rw [replace_front some_, ih]
      | other c rest other ih => rw [replace_cons other, ih]

/-! ## One text for another -/

/-- **Each occurrence of a text is replaced**, and nothing else is changed: that of the first one, and then
those in what follows it. -/
inductive Replaced (old new : List Char) : List Char → List Char → Prop where
  | none {cs : List Char} (absent : ¬ old <:+: cs) : Replaced old new cs cs
  | first {gap cs ds : List Char}
      (least : ∀ x y, gap ++ (old ++ cs) = x ++ (old ++ y) → gap.length ≤ x.length)
      (others : Replaced old new cs ds) : Replaced old new (gap ++ (old ++ cs)) (gap ++ (new ++ ds))

/-- What stands before the first occurrence stays. -/
theorem replace_first (some_ : old ≠ []) {gap cs : List Char}
    (least : ∀ x y, gap ++ (old ++ cs) = x ++ (old ++ y) → gap.length ≤ x.length) :
    replace old new (gap ++ (old ++ cs)) = gap ++ (new ++ replace old new cs) := by
  induction gap with
  | nil => exact replace_front some_ cs
  | cons c gap ih =>
    have other : ¬ old <+: c :: (gap ++ (old ++ cs)) := by
      rintro ⟨y, same⟩
      exact absurd (least [] y same.symm) (by simp)
    rw [List.cons_append, replace_cons other, List.cons_append, ih]
    intro x y same
    have below := least (c :: x) y (congrArg (c :: ·) same)
    simpa using below

/-- **Replacing is what it says.** -/
theorem replaced_iff (some_ : old ≠ []) {cs ds : List Char} :
    Replaced old new cs ds ↔ replace old new cs = ds := by
  constructor
  · intro replaced
    induction replaced with
    | none absent => exact replace_of_not_infix absent
    | first least _ ih => rw [replace_first some_ least, ih]
  · rintro rfl
    induction cs using replace_induction some_ with
    | nil => exact .none fun absent => some_ (List.infix_nil.1 absent)
    | found rest ih =>
      rw [replace_front some_]
      exact @Replaced.first old new [] _ _ (fun _ _ _ => Nat.zero_le _) ih
    | other c rest other ih =>
      rw [replace_cons other]
      generalize replace old new rest = ds at ih
      cases ih with
      | none absent =>
        refine .none fun inside => ?_
        exact (List.infix_cons_iff.1 inside).elim other absent
      | @first gap cs ds least others =>
        refine @Replaced.first old new (c :: gap) _ _ ?_ others
        intro x y same
        cases x with
        | nil => exact absurd ⟨y, same.symm⟩ other
        | cons d x =>
          have below := least x y (List.cons.inj same).2
          simpa using below

/-- **A text occurs just once**, between these two parts of another one. -/
structure Once (old front back cs : List Char) : Prop where
  split : cs = front ++ (old ++ back)
  only : ∀ front' back', cs = front' ++ (old ++ back') → front' = front

/-- **A text occurs just once** if it occurs neither before the end of one occurrence nor behind the beginning
of it. -/
theorem once_of_absent {front back : List Char} (some_ : old ≠ [])
    (before : ¬ old <:+: front ++ old.dropLast) (behind : ¬ old <:+: old.tail ++ back) :
    Once old front back (front ++ (old ++ back)) := by
  refine ⟨rfl, fun front' back' same => ?_⟩
  rcases List.append_eq_append_iff.1 same with ⟨a, rfl, rest⟩ | ⟨a, rfl, rest⟩
  · cases a with
    | nil => rw [List.append_nil]
    | cons c a =>
      obtain ⟨h, t, rfl⟩ := List.exists_cons_of_ne_nil some_
      refine absurd ⟨a, back', ?_⟩ behind
      rw [List.append_assoc]
      exact (List.cons.inj rest).2.symm
  · cases a with
    | nil => rw [List.append_nil]
    | cons c a =>
      -- The occurrence begins before the other one, so it ends before the last character of that.
      have long : old.length ≤ (c :: a ++ old.dropLast).length := by
        rw [List.length_append, List.length_dropLast, List.length_cons]
        omega
      have within : old <+: c :: a ++ old.dropLast := by
        refine List.prefix_of_prefix_length_le ⟨back', rest⟩ ?_ long
        rw [List.prefix_append_right_inj]
        exact (List.dropLast_prefix old).trans (List.prefix_append old back)
      refine absurd (within.isInfix.trans ?_) before
      rw [List.append_assoc]
      exact (List.suffix_append front' _).isInfix

/-- **The one occurrence is replaced**, and all else stays. -/
theorem Once.replace_eq (some_ : old ≠ []) {front back cs : List Char} (once : Once old front back cs) :
    replace old new cs = front ++ (new ++ back) := by
  obtain ⟨rfl, only⟩ := once
  have absent : ¬ old <:+: back := by
    rintro ⟨x, y, rfl⟩
    have first := congrArg List.length (only (front ++ (old ++ x)) y (by simp))
    have positive := List.length_pos_iff.2 some_
    simp only [List.length_append] at first
    omega
  rw [replace_first some_, replace_of_not_infix absent]
  intro x y same
  rw [only x y same]

/-! ## Escapes -/

/-- **A way to write characters**, each as a character of its own or as an escape, with a text of which no
escape has the beginning, and which has no character that is escaped. -/
structure Escapes (f : Char → List Char) (k : Char → Char) (h : Char) (t : List Char) : Prop where
  unescaped : '\\' ∉ h :: t
  each : ∀ c, f c = [k c] ∨ ∃ code, f c = '\\' :: code ∧ h ∉ code ∧ k c ∉ h :: t

variable {f : Char → List Char} {k : Char → Char} {h : Char} {t : List Char}

/-- A part of the text is in front of what is written exactly if it is in front of the characters. -/
theorem Escapes.prefix_flatMap_iff (escapes : Escapes f k h t) {part : List Char} (within : part ⊆ h :: t)
    (cs : List Char) : part <+: cs.flatMap f ↔ part <+: cs.map k := by
  induction cs generalizing part with
  | nil => rfl
  | cons c rest ih =>
    cases part with
    | nil => simp
    | cons x part =>
      obtain ⟨here, below⟩ := List.cons_subset.1 within
      rw [List.flatMap_cons, List.map_cons]
      rcases escapes.each c with plain | ⟨code, escaped, -, other⟩
      · rw [plain, List.singleton_append, List.cons_prefix_cons, List.cons_prefix_cons, ih below]
      · rw [escaped, List.cons_append, List.cons_prefix_cons, List.cons_prefix_cons]
        constructor
        · rintro ⟨rfl, -⟩
          exact absurd here escapes.unescaped
        · rintro ⟨rfl, -⟩
          exact absurd here other

/-- **The text occurs in what is written** exactly if it occurs in the characters. -/
theorem Escapes.infix_flatMap_iff (escapes : Escapes f k h t) (cs : List Char) :
    h :: t <:+: cs.flatMap f ↔ h :: t <:+: cs.map k := by
  induction cs with
  | nil => rfl
  | cons c rest ih =>
    have front := escapes.prefix_flatMap_iff (List.Subset.refl _) (c :: rest)
    rw [List.map_cons, List.infix_cons_iff, ← List.map_cons, ← front, ← ih, List.flatMap_cons]
    rcases escapes.each c with plain | ⟨code, escaped, free, -⟩
    · rw [plain, List.singleton_append, List.infix_cons_iff]
    · rw [escaped, List.cons_append, List.infix_cons_iff, infix_append_iff free]

/-- **Step.** Where the text does not begin, a character stays as it is written. -/
theorem Escapes.replace_flatMap_cons (escapes : Escapes f k h t) {c : Char} {cs : List Char}
    (other : ¬ h :: t <+: (c :: cs).map k) :
    replace (h :: t) new ((c :: cs).flatMap f) = f c ++ replace (h :: t) new (cs.flatMap f) := by
  have front := escapes.prefix_flatMap_iff (List.Subset.refl _) (c :: cs)
  rw [← front, List.flatMap_cons] at other
  rw [List.flatMap_cons]
  rcases escapes.each c with plain | ⟨code, escaped, free, -⟩
  · rw [plain, List.singleton_append] at other ⊢
    exact replace_cons other
  · have outside : h ∉ '\\' :: code := by
      have first : h ≠ '\\' := by
        rintro rfl
        exact escapes.unescaped List.mem_cons_self
      simp [first, free]
    rw [escaped, replace_append outside]

end CallTree.Text
