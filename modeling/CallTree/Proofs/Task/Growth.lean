/-
# CallTree.Proofs.Task.Growth — tasks that never pause and wait for their own children only.

In a task that grows (`Task.Grows`) a process starts children at most once, and what it still does when
these have ended is to pass their results on. Its processes are told apart by their positions, and so are
its faults: each is at the position of the process that it ends (`Faults`).
-/
import CallTree.Proofs.Path
import CallTree.Task

namespace CallTree

variable {σ ε α : Type}

/-! ## Faults -/

/-- **Faults at positions.** -/
abbrev Faults (ε : Type) := Path → ε → Prop

namespace Faults

variable (F : Faults ε)

/-- No fault is at or below a position. -/
def Free (p : Path) : Prop := ∀ v e, F v e → ¬ p <+: v

/-- **The soonest fault** at or below a position. -/
structure Least (p v : Path) (e : ε) : Prop where
  fault : F v e
  below : p <+: v
  least : ∀ u e', F u e' → p <+: u → u = v ∧ e' = e ∨ v.Sooner u

variable {F}

theorem Least.length_le {p v u : Path} {e e' : ε} (h : F.Least p v e) (fault : F u e')
    (below : p <+: u) : v.length ≤ u.length := by
  rcases h.least u e' fault below with ⟨rfl, _⟩ | sooner
  · exact Nat.le_refl _
  · exact sooner.length_le

/-- There is one soonest fault. -/
theorem Least.unique {p v u : Path} {e e' : ε} (h : F.Least p v e) (h' : F.Least p u e') : u = v := by
  rcases h.least u e' h'.fault h'.below with ⟨same, -⟩ | sooner
  · exact same
  · rcases h'.least v e h.fault h.below with ⟨same, -⟩ | sooner'
    · exact same.symm
    · exact absurd (sooner.trans sooner') (Path.Sooner.irrefl v)

end Faults

/-! ## Tasks that grow -/

namespace Task

/-- **A task that only passes on what it has**: it succeeds at once and changes nothing. -/
inductive Passes : Task σ ε α → Prop where
  | succeed (a : α) : Passes (.done (.ok a))
  | gather {child : Nat → Task σ ε α} {next : List α → Task σ ε α} (rest : Passes (next [])) :
      Passes (.gather 0 child next)

/-- **`Grows trace F p t`** — a task at a position that neither pauses nor hangs, and leaves nothing but
its position in the trace. It ends with the fault at its position, if there is one; else it succeeds, or
it waits for children that grow right below it, and then passes their results on. -/
inductive Grows (trace : σ → List Path) (F : Faults ε) : Path → Task σ ε α → Prop where
  | succeed {p : Path} (a : α) (free : F.Free p) : Grows trace F p (.done (.ok a))
  | fail {p : Path} {e : ε} (least : F.Least p p e) : Grows trace F p (.done (.error e))
  | act {p : Path} {update : σ → σ} {next : σ → Task σ ε α}
      (marks : ∀ s, trace (update s) = trace s ∨ trace (update s) = trace s ++ [p])
      (rest : ∀ s, Grows trace F p (next s)) : Grows trace F p (.act update next)
  | skip {p : Path} {child : Nat → Task σ ε α} {next : List α → Task σ ε α}
      (rest : Grows trace F p (next [])) : Grows trace F p (.gather 0 child next)
  | gather {p : Path} {count : Nat} {child : Nat → Task σ ε α} {next : List α → Task σ ε α}
      (children : ∀ i, i < count + 1 → Grows trace F (p ++ [(i : Int)]) (child i))
      (covers : ∀ v e, F v e → p <+: v → ∃ i : Nat, i < count + 1 ∧ p ++ [(i : Int)] <+: v)
      (rest : ∀ values, Passes (next values)) : Grows trace F p (.gather (count + 1) child next)

/-- How a task that grows stops. -/
inductive Halts (trace : σ → List Path) (F : Faults ε) (p : Path) : Stop σ ε α → Prop where
  | succeeded (a : α) (free : F.Free p) : Halts trace F p (.ended (.ok a))
  | failed {e : ε} (least : F.Least p p e) : Halts trace F p (.ended (.error e))
  | waits {count : Nat} {child : Nat → Task σ ε α} {next : List α → Task σ ε α}
      (children : ∀ i, i < count + 1 → Grows trace F (p ++ [(i : Int)]) (child i))
      (covers : ∀ v e, F v e → p <+: v → ∃ i : Nat, i < count + 1 ∧ p ++ [(i : Int)] <+: v)
      (rest : ∀ values, Passes (next values)) : Halts trace F p (.waiting count child next)

theorem Passes.advance {t : Task σ ε α} (h : t.Passes) (s : σ) :
    ∃ a, t.advance s = (.ended (.ok a), s) := by
  induction h with
  | succeed a => exact ⟨a, rfl⟩
  | gather _ ih => exact ih

theorem not_passes_fail (e : ε) : ¬ (.fail e : Task σ ε α).Passes := nofun

section

variable {trace : σ → List Path} {F : Faults ε} {p : Path} {t : Task σ ε α}

/-- **A task that grows stops as it should**, and has left nothing but its position in the trace. -/
theorem Grows.advance (h : t.Grows trace F p) (s : σ) :
    Halts trace F p (t.advance s).1 ∧
      ∃ k, trace (t.advance s).2 = trace s ++ List.replicate k p := by
  induction h generalizing s with
  | succeed a free => exact ⟨.succeeded a free, 0, (List.append_nil _).symm⟩
  | fail least => exact ⟨.failed least, 0, (List.append_nil _).symm⟩
  | @act p update next marks _ ih =>
    obtain ⟨halts, k, same⟩ := ih s (update s)
    refine ⟨halts, ?_⟩
    rcases marks s with quiet | marked
    · exact ⟨k, same.trans (by rw [quiet])⟩
    · exact ⟨k + 1, same.trans (by rw [marked, List.append_assoc, List.replicate_succ]; rfl)⟩
  | skip _ ih => exact ih s
  | gather children covers rest _ =>
    exact ⟨.waits children covers rest, 0, (List.append_nil _).symm⟩

/-- Below a task that passes on what it has there are no faults. -/
theorem Grows.free_of_passes (h : t.Grows trace F p) (s : σ) (passes : t.Passes) : F.Free p := by
  obtain ⟨a, stops⟩ := passes.advance s
  have halts := (h.advance s).1
  rw [stops] at halts
  cases halts with
  | succeeded _ free => exact free

/-! ## Called off early -/

/-- Where a task goes on, there is no fault at its own position. -/
theorem Halts.not_fault {stop : Stop σ ε α} (h : Halts trace F p stop)
    (goesOn : ∀ e, stop.outcome? ≠ some (.error e)) (e : ε) : ¬ F p e := by
  intro fault
  cases h with
  | succeeded a free => exact free p e fault (List.prefix_refl _)
  | failed least => exact goesOn _ rfl
  | waits _ covers _ =>
    obtain ⟨i, -, below⟩ := covers p e fault (List.prefix_refl _)
    have long := below.length_le
    rw [List.length_append, List.length_singleton] at long
    omega

/-- What a task has failed with in its first turn is the fault at its own position. -/
theorem Halts.least_of_failed {stop : Stop σ ε α} (h : Halts trace F p stop) {e : ε}
    (failed : stop.outcome? = some (.error e)) : F.Least p p e := by
  cases h with
  | succeeded a free => cases failed
  | failed least =>
    cases failed
    exact least
  | waits _ _ _ => cases failed

/-- **The first turns of children** leave their positions from left to right. -/
theorem trace_advanceAll {child : Nat → Task σ ε α} {start count : Nat}
    (grows : ∀ i, start ≤ i → i < start + count → (child i).Grows trace F (p ++ [(i : Int)])) (s : σ) :
    ∃ marks, trace (advanceAll ((List.range' start count).map child) s).2 = trace s ++ marks ∧
      marks.Pairwise (fun u v => u = v ∨ u.Sooner v) ∧
      ∀ u ∈ marks, ∃ i : Nat, start ≤ i ∧ u = p ++ [(i : Int)] := by
  -- By the number of children. That later ones are at `start` or behind it keeps the marks in order.
  induction count generalizing start s with
  | zero => exact ⟨[], (List.append_nil _).symm, .nil, List.forall_mem_nil _⟩
  | succ count ih =>
    obtain ⟨-, k, own⟩ := (grows start (Nat.le_refl _) (by omega)).advance s
    obtain ⟨marks, others, sorted, among⟩ :=
      @ih (start + 1) (fun i from_ bound => grows i (by omega) (by omega)) ((child start).advance s).2
    rw [List.range'_succ, List.map_cons]
    simp only [advanceAll]
    refine ⟨List.replicate k (p ++ [(start : Int)]) ++ marks, ?_, ?_, ?_⟩
    · rw [others, own, List.append_assoc]
    · refine List.pairwise_append.2 ⟨List.pairwise_replicate.2 (.inr (.inl rfl)), sorted, ?_⟩
      intro u here v later
      obtain ⟨i, from_, rfl⟩ := among v later
      rw [List.eq_of_mem_replicate here]
      exact .inr ((Path.left_concat p (by omega)).sooner (by simp))
    · intro u mem
      rcases List.mem_append.1 mem with here | later
      · exact ⟨start, Nat.le_refl _, List.eq_of_mem_replicate here⟩
      · obtain ⟨i, from_, same⟩ := among u later
        exact ⟨i, by omega, same⟩

/-- **The first failure in the first turns of children** is that of the first child with a fault at its own
position. -/
theorem least_of_firstFailure? {child : Nat → Task σ ε α} {start count : Nat}
    (grows : ∀ i, start ≤ i → i < start + count → (child i).Grows trace F (p ++ [(i : Int)])) {s : σ} {e : ε}
    (failed : firstFailure? (advanceAll ((List.range' start count).map child) s).1 = some e) :
    ∃ k : Nat, F.Least (p ++ [(k : Int)]) (p ++ [(k : Int)]) e ∧
      ∀ i : Nat, start ≤ i → i < k → ∀ e', ¬ F (p ++ [(i : Int)]) e' := by
  induction count generalizing start s with
  | zero => cases failed
  | succ count ih =>
    have halts := ((grows start (Nat.le_refl _) (by omega)).advance s).1
    rw [List.range'_succ, List.map_cons] at failed
    simp only [advanceAll] at failed
    -- A child that goes on has no fault at its own position, so those behind it decide.
    by_cases goesOn : ∀ e, ((child start).advance s).1.outcome? ≠ some (.error e)
    · rw [firstFailure?_cons goesOn] at failed
      obtain ⟨k, least, before⟩ := @ih (start + 1) (fun i from_ bound => grows i (by omega) (by omega)) _ failed
      refine ⟨k, least, fun i from_ lt => ?_⟩
      rcases Nat.eq_or_lt_of_le from_ with rfl | later
      · exact halts.not_fault goesOn
      · exact before i later lt
    · push Not at goesOn
      obtain ⟨e', own⟩ := goesOn
      rw [own] at failed
      cases failed
      exact ⟨start, halts.least_of_failed own, fun i from_ lt => absurd lt (Nat.not_lt.2 from_)⟩

/-- The first child with a fault at its own position has the soonest fault there is at or below its parent. -/
theorem least_of_children {count k : Nat} {e : ε}
    (covers : ∀ v e, F v e → p <+: v → ∃ i : Nat, i < count + 1 ∧ p ++ [(i : Int)] <+: v)
    (least : F.Least (p ++ [(k : Int)]) (p ++ [(k : Int)]) e)
    (before : ∀ i : Nat, i < k → ∀ e', ¬ F (p ++ [(i : Int)]) e') : F.Least p (p ++ [(k : Int)]) e := by
  refine ⟨least.fault, List.prefix_append _ _, fun u e' fault below => ?_⟩
  -- A fault is at one of the children, or deeper.
  obtain ⟨i, -, inside⟩ := covers u e' fault below
  have deeper (other : p ++ [(i : Int)] ≠ u) : (p ++ [(k : Int)]).Sooner u := by
    have long := Nat.lt_of_le_of_ne inside.length_le fun same => other (inside.eq_of_length same)
    rw [List.length_append, List.length_singleton] at long
    exact .inl (by rwa [List.length_append, List.length_singleton])
  rcases Nat.lt_trichotomy i k with left | rfl | right
  · refine .inr (deeper ?_)
    rintro rfl
    exact before i left e' fault
  · exact least.least u e' fault inside
  · right
    rcases eq_or_ne (p ++ [(i : Int)]) u with rfl | other
    · exact (Path.left_concat p (by omega)).sooner (by simp)
    · exact deeper other

/-- **A task that grows and is called off** has left positions level by level. What it has come to early is
the soonest fault, or a success without faults. -/
theorem Grows.early (h : t.Grows trace F p) (s : σ) :
    (∃ marks, trace (t.early s).2 = trace s ++ marks ∧ marks.Pairwise fun u v => u = v ∨ u.Sooner v) ∧
      (∀ a, (t.early s).1 = some (.ok a) → F.Free p) ∧
      ∀ e, (t.early s).1 = some (.error e) → ∃ v, F.Least p v e := by
  obtain ⟨halts, k, own⟩ := h.advance s
  have self : (List.replicate k p).Pairwise fun u v => u = v ∨ u.Sooner v :=
    List.pairwise_replicate.2 (.inr (.inl rfl))
  unfold Task.early
  generalize t.advance s = stopped at halts own
  obtain ⟨stop, mid⟩ := stopped
  cases halts with
  | succeeded a free => exact ⟨⟨_, own, self⟩, fun _ _ => free, nofun⟩
  | failed least =>
    refine ⟨⟨_, own, self⟩, nofun, ?_⟩
    rintro e ⟨⟩
    exact ⟨p, least⟩
  | @waits count child next children covers rest =>
    have grows (i : Nat) (_ : 0 ≤ i) (bound : i < 0 + (count + 1)) := children i (by omega)
    simp only [List.range_eq_range']
    obtain ⟨marks, others, sorted, among⟩ := trace_advanceAll grows mid
    refine ⟨⟨List.replicate k p ++ marks, ?_, ?_⟩, ?_, ?_⟩
    · rw [← List.append_assoc, ← own]
      exact others
    · refine List.pairwise_append.2 ⟨self, sorted, fun u here v later => .inr (.inl ?_)⟩
      obtain ⟨i, -, rfl⟩ := among v later
      rw [List.eq_of_mem_replicate here, List.length_append, List.length_singleton]
      exact Nat.lt_succ_self _
    · intro a success
      obtain ⟨e, -, failed⟩ := Option.map_eq_some_iff.1 success
      cases failed
    · intro e failed
      obtain ⟨e', pressing, same⟩ := Option.map_eq_some_iff.1 failed
      cases same
      obtain ⟨k, least, before⟩ := least_of_firstFailure? grows (firstFailure?_of_pressing? pressing)
      exact ⟨_, least_of_children covers least fun i => before i (Nat.zero_le i)⟩

/-- **A task grows with its own faults only.** -/
theorem Grows.congr (h : t.Grows trace F p) {F' : Faults ε}
    (same : ∀ v e, p <+: v → (F v e ↔ F' v e)) : t.Grows trace F' p := by
  have free {p : Path} (same : ∀ v e, p <+: v → (F v e ↔ F' v e)) (free : F.Free p) : F'.Free p :=
    fun v e fault below => free v e ((same v e below).2 fault) below
  induction h with
  | succeed a none => exact .succeed a (free same none)
  | fail least =>
    exact .fail ⟨(same _ _ least.below).1 least.fault, least.below,
      fun u e fault below => least.least u e ((same u e below).2 fault) below⟩
  | act marks _ ih => exact .act marks fun s => ih s same
  | skip _ ih => exact .skip (ih same)
  | @gather p count child next children covers rest ih =>
    refine .gather (fun i bound => ih i bound fun v e below => ?_)
      (fun v e fault below => covers v e ((same v e below).2 fault) below) rest
    exact same v e ((List.prefix_append _ _).trans below)

/-! ## Tasks put together -/

theorem Passes.grows (h : t.Passes) (free : F.Free p) : t.Grows trace F p := by
  induction h with
  | succeed a => exact .succeed a free
  | gather _ ih => exact .skip ih

theorem Passes.andThen {k : α → Task σ ε α} (h : t.Passes) (goesOn : ∀ a, (k a).Passes) :
    (t.andThen k).Passes := by
  induction h with
  | succeed a => exact goesOn a
  | gather _ ih => exact .gather ih

theorem Grows.andThen {k : α → Task σ ε α} (h : t.Grows trace F p) (goesOn : ∀ a, (k a).Passes) :
    (t.andThen k).Grows trace F p := by
  induction h with
  | succeed a free => exact (goesOn a).grows free
  | fail least => exact .fail least
  | act marks _ ih => exact .act marks ih
  | skip _ ih => exact .skip ih
  | gather children covers rest _ =>
    exact .gather children covers fun values => (rest values).andThen goesOn

/-- **Side by side**: each child grows, and no fault is elsewhere. -/
theorem Grows.gatherAll {tasks : List (Task σ ε α)} {next : List α → Task σ ε α}
    (children : ∀ (i : Nat) (t : Task σ ε α), tasks[i]? = some t →
      t.Grows trace F (p ++ [(i : Int)]))
    (covers : ∀ v e, F v e → p <+: v → ∃ i : Nat, i < tasks.length ∧ p ++ [(i : Int)] <+: v)
    (rest : ∀ values, (next values).Passes) : (Task.gatherAll tasks next).Grows trace F p := by
  cases tasks with
  | nil =>
    refine .skip ((rest []).grows ?_)
    intro v e fault below
    obtain ⟨i, bound, -⟩ := covers v e fault below
    cases bound
  | cons first others =>
    refine .gather (fun i bound => ?_) covers rest
    have child : (first :: others)[i]? = some (first :: others)[i] := List.getElem?_eq_getElem bound
    rw [List.getD_eq_getElem?_getD, child]
    exact children i _ child

end

end Task

end CallTree
