/-
# CallTree.Proofs.Path — positions and their order.

Positions are linearly ordered (`Path.le`): component by component, and a position before those below
it. Two positions are apart if none is a prefix of the other (`Path.Apart`); then whatever is below one
is not below the other. Of two that are apart one is to the left (`Path.Left`), and so is everything
below it. Level by level, and on each level in this order, a position comes sooner than another or
later (`Path.Sooner`).
-/
import Mathlib.Data.List.Infix
import CallTree.Context

namespace CallTree

namespace Path

theorem le_cons (a b : Int) (as bs : Path) :
    le (a :: as) (b :: bs) = true ↔ a < b ∨ a = b ∧ le as bs = true := by
  simp [le]

theorem le_total (p q : Path) : le p q = true ∨ le q p = true := by
  induction p generalizing q with
  | nil => exact .inl rfl
  | cons a as ih =>
    cases q with
    | nil => exact .inr rfl
    | cons b bs =>
      rw [le_cons, le_cons]
      rcases Int.lt_trichotomy a b with lt | rfl | gt
      · exact .inl (.inl lt)
      · rcases ih bs with h | h
        · exact .inl (.inr ⟨rfl, h⟩)
        · exact .inr (.inr ⟨rfl, h⟩)
      · exact .inr (.inl gt)

theorem le_trans {p q s : Path} (h : le p q = true) (h' : le q s = true) : le p s = true := by
  induction p generalizing q s with
  | nil => rfl
  | cons a as ih =>
    cases q with
    | nil => cases h
    | cons b bs =>
      cases s with
      | nil => cases h'
      | cons c cs =>
        rw [le_cons] at h h' ⊢
        rcases h with lt | ⟨rfl, first⟩
        · rcases h' with lt' | ⟨rfl, _⟩
          · exact .inl (Int.lt_trans lt lt')
          · exact .inl lt
        · rcases h' with lt' | ⟨rfl, second⟩
          · exact .inl lt'
          · exact .inr ⟨rfl, ih first second⟩

theorem le_antisymm {p q : Path} (h : le p q = true) (h' : le q p = true) : p = q := by
  induction p generalizing q with
  | nil =>
    cases q with
    | nil => rfl
    | cons b bs => cases h'
  | cons a as ih =>
    cases q with
    | nil => cases h
    | cons b bs =>
      rw [le_cons] at h h'
      rcases h with lt | ⟨rfl, first⟩
      · rcases h' with gt | ⟨rfl, _⟩
        · omega
        · omega
      · rcases h' with gt | ⟨_, second⟩
        · omega
        · rw [ih first second]

/-! ## Positions that are apart -/

/-- **Positions that are apart**: none is at or below the other. -/
def Apart (p q : Path) : Prop := ¬ p <+: q ∧ ¬ q <+: p

/-- A position that is strictly above another. -/
def Above (p q : Path) : Prop := p <+: q ∧ p ≠ q

instance (p q : Path) : Decidable (Above p q) := inferInstanceAs (Decidable (_ ∧ _))

theorem above_concat (p : Path) (i : Int) : Above p (p ++ [i]) := by
  refine ⟨List.prefix_append _ _, ?_⟩
  intro same
  have lengths := congrArg List.length same
  rw [List.length_append, List.length_singleton] at lengths
  omega

/-- What is strictly above a child is the parent or above it. -/
theorem Above.of_concat {p q : Path} {i : Int} (h : Above q (p ++ [i])) : q = p ∨ Above q p := by
  rcases List.prefix_concat_iff.1 h.1 with same | above
  · exact absurd same h.2
  · by_cases eq : q = p
    · exact .inl eq
    · exact .inr ⟨above, eq⟩

theorem Above.extend {p q s : Path} (h : Above p q) (below : q <+: s) : Above p s := by
  refine ⟨h.1.trans below, fun same => h.2 ?_⟩
  subst same
  exact h.1.eq_of_length_le below.length_le

theorem Apart.symm {p q : Path} (h : Apart p q) : Apart q p := ⟨h.2, h.1⟩

/-- Nothing is below two positions that are apart. -/
theorem Apart.not_below {p q s : Path} (h : Apart p q) (below : p <+: s) : ¬ q <+: s := by
  intro below'
  rcases List.prefix_or_prefix_of_prefix below below' with first | second
  · exact h.1 first
  · exact h.2 second

/-- What is below positions that are apart is apart. -/
theorem Apart.extend {p q p' q' : Path} (h : Apart p q) (below : p <+: p') (below' : q <+: q') :
    Apart p' q' :=
  ⟨fun le => h.not_below (below.trans le) below', fun le => h.not_below below (below'.trans le)⟩

theorem Apart.of_ne (path : Path) {i j : Int} (h : i ≠ j) : Apart (path ++ [i]) (path ++ [j]) := by
  have not_le {i j : Int} (h : i ≠ j) : ¬ path ++ [i] <+: path ++ [j] := by
    rw [List.prefix_append_right_inj, List.singleton_prefix_cons_iff]
    exact h
  exact ⟨not_le h, not_le h.symm⟩

/-! ## Before and to the left -/

/-- A position that comes before another. -/
def Before (p q : Path) : Prop := p.le q = true ∧ p ≠ q

/-- **A position to the left of another**: the two go apart at some place, the first with the smaller
index. -/
def Left (p q : Path) : Prop :=
  ∃ (front : Path) (i j : Int), i < j ∧ front ++ [i] <+: p ∧ front ++ [j] <+: q

theorem le_append (front p q : Path) : le (front ++ p) (front ++ q) = le p q := by
  induction front with
  | nil => rfl
  | cons a front ih =>
    simp only [List.cons_append, le, ih]
    simp

theorem prefix_le {p q : Path} (h : p <+: q) : le p q = true := by
  obtain ⟨rest, rfl⟩ := h
  have front := le_append p [] rest
  rw [List.append_nil] at front
  rw [front]
  rfl

theorem Above.before {p q : Path} (h : Above p q) : Before p q := ⟨prefix_le h.1, h.2⟩

/-- What comes before another position is not below it. -/
theorem Before.not_below {p q : Path} (h : Before p q) : ¬ q <+: p :=
  fun below => h.2 (le_antisymm h.1 (prefix_le below))

theorem Left.extend {p q p' q' : Path} (h : Left p q) (below : p <+: p') (below' : q <+: q') :
    Left p' q' := by
  obtain ⟨front, i, j, lt, first, second⟩ := h
  exact ⟨front, i, j, lt, first.trans below, second.trans below'⟩

theorem Left.apart {p q : Path} (h : Left p q) : Apart p q := by
  obtain ⟨front, i, j, lt, first, second⟩ := h
  exact (Apart.of_ne front (Int.ne_of_lt lt)).extend first second

theorem Left.before {p q : Path} (h : Left p q) : Before p q := by
  have apart := h.apart
  obtain ⟨front, i, j, lt, ⟨rest, rfl⟩, ⟨rest', rfl⟩⟩ := h
  refine ⟨?_, fun same => apart.1 (same ▸ List.prefix_refl _)⟩
  rw [List.append_assoc, List.append_assoc, le_append, List.cons_append, List.cons_append, le_cons]
  exact .inl lt

theorem left_concat (path : Path) {i j : Int} (lt : i < j) : Left (path ++ [i]) (path ++ [j]) :=
  ⟨path, i, j, lt, List.prefix_refl _, List.prefix_refl _⟩

/-- What goes apart below an index goes apart. -/
theorem Left.cons (a : Int) {p q : Path} (h : Left p q) : Left (a :: p) (a :: q) := by
  obtain ⟨front, i, j, lt, first, second⟩ := h
  refine ⟨a :: front, i, j, lt, ?_, ?_⟩
  · exact List.cons_prefix_cons.2 ⟨rfl, first⟩
  · exact List.cons_prefix_cons.2 ⟨rfl, second⟩

/-- **Of two positions in order**, the first is at or above the second, or to the left of it. -/
theorem le_iff {p q : Path} : le p q = true ↔ p <+: q ∨ Left p q := by
  constructor
  · intro h
    induction p generalizing q with
    | nil => exact .inl List.nil_prefix
    | cons a as ih =>
      cases q with
      | nil => cases h
      | cons b bs =>
        rcases (le_cons a b as bs).1 h with lt | ⟨rfl, below⟩
        · exact .inr ⟨[], a, b, lt, by simp, by simp⟩
        · rcases ih below with front | left
          · exact .inl (List.cons_prefix_cons.2 ⟨rfl, front⟩)
          · exact .inr (left.cons a)
  · rintro (front | left)
    · exact prefix_le front
    · exact left.before.1

/-! ## Sooner -/

/-- **A position that comes sooner than another**: it is shorter, or as long and before it. -/
def Sooner (p q : Path) : Prop := p.length < q.length ∨ p.length = q.length ∧ Before p q

theorem Before.trans {p q s : Path} (h : Before p q) (h' : Before q s) : Before p s := by
  refine ⟨le_trans h.1 h'.1, ?_⟩
  rintro rfl
  exact h.2 (le_antisymm h.1 h'.1)

theorem Sooner.length_le {p q : Path} (h : Sooner p q) : p.length ≤ q.length := by
  rcases h with shorter | ⟨same, _⟩
  · exact Nat.le_of_lt shorter
  · exact Nat.le_of_eq same

theorem Sooner.trans {p q s : Path} (h : Sooner p q) (h' : Sooner q s) : Sooner p s := by
  have le := h.length_le
  have le' := h'.length_le
  rcases h with shorter | ⟨same, before⟩
  · exact .inl (Nat.lt_of_lt_of_le shorter le')
  · rcases h' with shorter | ⟨same', before'⟩
    · exact .inl (Nat.lt_of_le_of_lt le shorter)
    · exact .inr ⟨same.trans same', before.trans before'⟩

theorem Sooner.irrefl (p : Path) : ¬ Sooner p p := by
  rintro (shorter | ⟨-, before⟩)
  · exact Nat.lt_irrefl _ shorter
  · exact before.2 rfl

theorem Left.sooner {p q : Path} (h : Left p q) (same : p.length = q.length) : Sooner p q :=
  .inr ⟨same, h.before⟩

end Path

end CallTree
