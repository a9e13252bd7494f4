/-
# CallTree.Proofs.Task.Replay — a run beside others, done again alone.

What a task does beside others it does again by itself, if it is told what it read then. A task replays
another (`Task.Replays`) if it does the same, but keeps count of its readings in the state, and goes on
from each as the other did from the reading of that number. The readings of a run beside others can be
listed while it goes (`Lane.Beside.replayed`), so whatever it comes to, a task that replays it comes to
(`Lane.Beside.answer_replayed`).
-/
import CallTree.Proofs.Task.Alike
import CallTree.Proofs.Task.Branch

namespace CallTree

variable {σ ε α : Type}

/-! ## Tasks -/

section

variable (reads : (σ → σ) → Bool) (count : σ → Nat) (told : Nat → σ)

/-- **`t.Replays t'`** — `t'` does what `t` does. Where `t` reads the state, `t'` goes on from what it is
told instead, which is the next in number; where `t` only writes, both go on without a look. -/
inductive Task.Replays : Task σ ε α → Task σ ε α → Prop where
  | done (outcome : Except ε α) : Replays (.done outcome) (.done outcome)
  | write {update update' : σ → σ} {next next' : σ → Task σ ε α} (blind : reads update = false)
      (quiet : ∀ s', count (update' s') = count s') (rest : ∀ s s', Replays (next s) (next' s')) :
      Replays (.act update next) (.act update' next')
  | read {update update' : σ → σ} {next next' : σ → Task σ ε α} (sees : reads update = true)
      (counts : ∀ s', count (update' s') = count s' + 1)
      (rest : ∀ s', Replays (next (told (count s'))) (next' s')) :
      Replays (.act update next) (.act update' next')
  | pause {next next' : Task σ ε α} (rest : Replays next next') : Replays (.pause next) (.pause next')
  | hang : Replays .hang .hang
  | gather {n : Nat} {child child' : Nat → Task σ ε α} {next next' : List α → Task σ ε α}
      (children : ∀ i, Replays (child i) (child' i))
      (rest : ∀ values, Replays (next values) (next' values)) :
      Replays (.gather n child next) (.gather n child' next')

/-- **What a task reads** before it stops. -/
def Task.readings : Task σ ε α → σ → List σ
  | .done _, _ => []
  | .act update next, s =>
    if reads update then s :: readings (next s) (update s) else readings (next s) (update s)
  | .pause _, _ => []
  | .hang, _ => []
  | .gather 0 _ next, s => readings (next []) s
  | .gather (_ + 1) _ _, _ => []

/-- **Being told the right readings**, from the count on. -/
def Tells (s' : σ) (readings : List σ) : Prop :=
  ∀ (k : Nat) (s : σ), readings[k]? = some s → told (count s' + k) = s

end

section

variable {reads : (σ → σ) → Bool} {count : σ → Nat} {told : Nat → σ}

/-- **A task runs as the one that it replays**, if it is told what that one reads. -/
theorem Task.Replays.advance {t t' : Task σ ε α} (h : t.Replays reads count told t') (s s' : σ)
    (tells : Tells count told s' (t.readings reads s)) :
    (t.advance s).1.Alike (Replays reads count told) (t'.advance s').1 ∧
      count (t'.advance s').2 = count s' + (t.readings reads s).length := by
  induction h generalizing s s' with
  | done outcome => exact ⟨.ended outcome, rfl⟩
  | @write update update' next next' blind quiet _ ih =>
    have same : (Task.act update next).readings reads s = (next s).readings reads (update s) := by
      rw [readings, blind]
      rfl
    rw [same] at tells ⊢
    have still : Tells count told (update' s') ((next s).readings reads (update s)) := by
      intro k v here
      rw [quiet]
      exact tells k v here
    obtain ⟨alike, counted⟩ := ih s s' (update s) (update' s') still
    exact ⟨alike, counted.trans (by rw [quiet])⟩
  | @read update update' next next' sees counts _ ih =>
    have first : (Task.act update next).readings reads s = s :: (next s).readings reads (update s) :=
      if_pos sees
    rw [first] at tells ⊢
    -- What it is told first is what the other reads first, so both go on alike.
    have now : told (count s') = s := tells 0 s rfl
    have later : Tells count told (update' s') ((next (told (count s'))).readings reads (update s)) := by
      intro k v here
      rw [counts, Nat.add_assoc, Nat.add_comm 1 k]
      exact tells (k + 1) v (now ▸ here)
    obtain ⟨alike, counted⟩ := ih s' (update s) (update' s') later
    rw [now] at alike counted
    refine ⟨alike, counted.trans ?_⟩
    rw [counts, List.length_cons]
    omega
  | pause rest => exact ⟨.paused rest, rfl⟩
  | hang => exact ⟨.hung, rfl⟩
  | @gather n _ _ _ _ children rest _ ih =>
    cases n with
    | zero => exact ih [] s s' tells
    | succ n => exact ⟨.waiting children rest, rfl⟩

/-! ## Lanes -/

namespace Lane

variable (reads) in
/-- What is read when something is done in a lane. -/
def readings (l : Lane σ ε α) : Due → List σ
  | .run path =>
    match l.root.at? path with
    | some (.node (.ready task) _) => task.readings reads l.state
    | _ => []
  | .report _ _ => []

/-- Nothing is read where nothing is done. -/
theorem readings_of_not_ready {l : Lane σ ε α} {path : List Nat}
    (other : ∀ task, l.root.stage? path ≠ some (.ready task)) : l.readings reads (.run path) = [] := by
  rw [readings]
  split
  · rename_i task _ here
    exact absurd (Process.stage?_of_at? here) (other task)
  · rfl

/-- **The same is done in both lanes**, if the second is told what is read in the first. -/
theorem handle_replays {l l' : Lane σ ε α} (h : l.root.Alike (Task.Replays reads count told) l'.root)
    (due : Due) (tells : Tells count told l'.state (l.readings reads due)) :
    Alike (Task.Replays reads count told) (l.handle due) (l'.handle due) ∧
      count (l'.handle due).1.state = count l'.state + (l.readings reads due).length := by
  cases due with
  | report parent slot =>
    exact ⟨tell_alike .done h parent slot, congrArg count (l'.tell_rest parent slot).1⟩
  | run path =>
    rcases h.ready path with ⟨other, other'⟩ | ⟨task, task', _, _, alike, length, here, here'⟩
    · rw [handle_of_not_ready other, handle_of_not_ready other', readings_of_not_ready other]
      exact ⟨⟨h, rfl⟩, rfl⟩
    · simp only [readings, here] at tells ⊢
      rw [handle_of_ready here, handle_of_ready here', length]
      obtain ⟨stops, counted⟩ := alike.advance l.state l'.state tells
      exact ⟨settle_alike h _ _ path _ stops, counted⟩

/-! ## Runs -/

/-- **Run.** While a task runs beside others, the readings that its replay has to be told can be
listed. -/
theorem Beside.replayed {t : Task σ ε α} {s s' : σ} {replay : (Nat → σ) → Task σ ε α}
    (replays : ∀ told, t.Replays reads count told (replay told)) (fromZero : count s' = 0)
    {y : Lane σ ε α × List Due} (run : Beside (begun t s) y) :
    ∃ seen : List σ, ∀ told : Nat → σ, (∀ (k : Nat) (v : σ), seen[k]? = some v → told k = v) →
      ∃ z, Reaches (begun (replay told) s') z ∧ Alike (Task.Replays reads count told) y z ∧
        count z.1.state = seen.length := by
  induction run with
  | refl =>
    refine ⟨[], fun told _ => ⟨_, .refl _, ⟨.node (.ready (replays told)) .nil, rfl⟩, fromZero⟩⟩
  | written _ s ih =>
    obtain ⟨seen, replayed⟩ := ih
    refine ⟨seen, fun told agrees => ?_⟩
    obtain ⟨z, reached, alike, counted⟩ := replayed told agrees
    exact ⟨z, reached, ⟨alike.root, alike.due⟩, counted⟩
  | @turn y _ ih =>
    obtain ⟨seen, replayed⟩ := ih
    obtain ⟨l, _ | ⟨due, rest⟩⟩ := y
    · exact ⟨seen, replayed⟩
    · refine ⟨seen ++ l.readings reads due, fun told agrees => ?_⟩
      obtain ⟨⟨l', queue⟩, reached, ⟨root, same⟩, counted⟩ := replayed told fun k v here =>
        agrees k v (by rw [List.getElem?_append_left (List.getElem?_eq_some_iff.1 here).1, here])
      simp only at root same counted
      subst same
      -- What is read in this turn comes next in the list.
      have tells : Tells count told l'.state (l.readings reads due) := by
        intro k v here
        apply agrees
        rw [counted, List.getElem?_append_right (Nat.le_add_right _ _), Nat.add_sub_cancel_left, here]
      obtain ⟨alike, counted'⟩ := handle_replays root due tells
      refine ⟨_, reached.trans (.turn _), ⟨alike.root, ?_⟩, ?_⟩
      · simp only [Lane.turn, alike.due]
      · rw [List.length_append, ← counted]
        exact counted'

/-- **What a task comes to beside others, its replay comes to alone**, if it is told the right
readings. -/
theorem Beside.answer_replayed {t : Task σ ε α} {s s' : σ} {replay : (Nat → σ) → Task σ ε α}
    (replays : ∀ told, t.Replays reads count told (replay told)) (fromZero : count s' = 0)
    {y : Lane σ ε α × List Due} (run : Beside (begun t s) y) {outcome : Except ε α}
    (ended : y.1.root.stage = .ended outcome) :
    ∃ told z a, Reaches (begun (replay told) s') z ∧ z.1.answer = some a ∧ a.outcome = outcome := by
  obtain ⟨seen, replayed⟩ := run.replayed replays fromZero
  obtain ⟨z, reached, alike, -⟩ := replayed (fun k => seen.getD k s) fun k v here => by
    rw [List.getD_eq_getElem?_getD, here, Option.getD_some]
  have stage := alike.root.stage
  rw [ended] at stage
  generalize there : z.1.root.stage = stage' at stage
  cases stage with
  | ended _ =>
    have verdict := (reached.kept (kept_begun _ s')).sound.verdict
    rw [there] at verdict
    obtain ⟨a, answer, same⟩ := Option.map_eq_some_iff.1 verdict
    exact ⟨_, z, a, reached, answer, same⟩

end Lane

end

end CallTree
