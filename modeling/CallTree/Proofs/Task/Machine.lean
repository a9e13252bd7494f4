/-
# CallTree.Proofs.Task.Machine — the lanes of a machine do not notice each other.

Seen from one lane, a machine is that lane and the part of the queue that is for it (`Machine.view`).
A turn of the machine is a turn of one view and nothing for the others (`Machine.view_handle_self`,
`Machine.view_handle_other`). So every run of a machine is, for each lane, a run of that lane by
itself, of which there is only one (`Lane.Reaches.agree`). What a lane comes to therefore does not
depend on the lanes beside it, nor on when it starts.
-/
import Mathlib.Data.Fintype.Basic
import Mathlib.Logic.Function.Iterate
import Mathlib.Logic.Relation
import CallTree.Proofs.Task.Booking

namespace CallTree

variable {σ ε α : Type}

/-! ## One lane by itself -/

namespace Lane

/-- A lane before anything has run, with its root due. -/
def begun (task : Task σ ε α) (state : σ) : Lane σ ε α × List Due :=
  (fresh task state, [.run []])

/-- Do what is due first in a lane. -/
def turn : Lane σ ε α × List Due → Lane σ ε α × List Due
  | (l, []) => (l, [])
  | (l, due :: rest) => ((l.handle due).1, rest ++ (l.handle due).2)

/-- `Reaches x y`: some turns lead from `x` to `y`. -/
def Reaches (x y : Lane σ ε α × List Due) : Prop := ∃ n, turn^[n] x = y

/-- A lane that is answered, or in which nothing is due. -/
def Finished (x : Lane σ ε α × List Due) : Prop := x.1.answer.isSome ∨ x.2 = []

/-- **What is kept** from turn to turn: a lane is sound, and everything that has to be due is. -/
structure Kept (task : Task σ ε α) (state : σ) (x : Lane σ ε α × List Due) : Prop where
  sound : x.1.Sound task state
  booked : x.1.root.Booked x.2

theorem kept_begun (task : Task σ ε α) (state : σ) : Kept task state (begun task state) :=
  ⟨sound_fresh task state, Process.booked_fresh task⟩

theorem Kept.turn {task : Task σ ε α} {state : σ} {x : Lane σ ε α × List Due}
    (kept : Kept task state x) : Kept task state (turn x) := by
  obtain ⟨l, queue⟩ := x
  cases queue with
  | nil => exact kept
  | cons due rest =>
    obtain ⟨sound, booked⟩ := kept
    have done := l.handled due
    have sound' := sound.handled done
    exact ⟨sound', done.booked booked⟩

/-- **Step.** An answer stays. -/
theorem answer_turn {task : Task σ ε α} {state : σ} {x : Lane σ ε α × List Due}
    (kept : Kept task state x) {a : Answer σ ε α} (answer : x.1.answer = some a) :
    (turn x).1.answer = some a := by
  obtain ⟨l, queue⟩ := x
  cases queue with
  | nil => exact answer
  | cons due rest => exact kept.sound.answer_handled (l.handled due) answer

/-- **Run.** What every turn keeps is kept. -/
theorem Reaches.keeps {P : Lane σ ε α × List Due → Prop} (step : ∀ x, P x → P (turn x))
    {x y : Lane σ ε α × List Due} (run : Reaches x y) (h : P x) : P y := by
  obtain ⟨n, rfl⟩ := run
  induction n generalizing x with
  | zero => exact h
  | succ n ih => exact ih (step x h)

theorem Reaches.kept {task : Task σ ε α} {state : σ} {x y : Lane σ ε α × List Due}
    (run : Reaches x y) (kept : Kept task state x) : Kept task state y :=
  run.keeps (P := Kept task state) (fun _ => Kept.turn) kept

/-- **Step.** An answer is given with the state of the moment. -/
theorem answered_turn {x : Lane σ ε α × List Due} {a : Answer σ ε α}
    (answer : (turn x).1.answer = some a) :
    x.1.answer = some a ∨ a.state = (turn x).1.state := by
  obtain ⟨l, queue⟩ := x
  cases queue with
  | nil => exact .inl answer
  | cons due rest => exact (l.handled due).answered answer

theorem Reaches.answer {task : Task σ ε α} {state : σ} {x y : Lane σ ε α × List Due}
    (run : Reaches x y) (kept : Kept task state x) {a : Answer σ ε α}
    (answer : x.1.answer = some a) : y.1.answer = some a :=
  (run.keeps (P := fun x => Kept task state x ∧ x.1.answer = some a)
    (fun _ h => ⟨h.1.turn, answer_turn h.1 h.2⟩) ⟨kept, answer⟩).2

/-- **At every moment** of a run, the task of a lane is under way with what it has made of the
state. -/
theorem Reaches.underway {task : Task σ ε α} {state : σ} {y : Lane σ ε α × List Due}
    (run : Reaches (begun task state) y) :
    ∃ updates, y.1.state = perform updates state ∧ task.Stands .underway updates := by
  obtain ⟨updates, same, leads⟩ := (run.kept (kept_begun task state)).sound.leads
  have stands := leads .underway [] (.begun _)
  rw [List.append_nil] at stands
  exact ⟨updates, same, stands⟩

/-- **A finished lane is answered**, or something in it hangs. -/
theorem Reaches.answered_or_stuck {task : Task σ ε α} {state : σ} {y : Lane σ ε α × List Due}
    (run : Reaches (begun task state) y) (finished : Finished y) : y.1.answer.isSome ∨
      (∃ updates, y.1.state = perform updates state ∧ task.Stands .stuck updates) ∧
        ∃ place, y.1.root.stage? place = some .hung := by
  rcases finished with answered | quiet
  · exact .inl answered
  · have kept := run.kept (kept_begun task state)
    exact kept.sound.answered_or_stuck (quiet ▸ kept.booked)

/-- **A lane in which nothing hangs is answered** when it is finished. -/
theorem Reaches.answered {task : Task σ ε α} {state : σ} {y : Lane σ ε α × List Due}
    (run : Reaches (begun task state) y) (lively : task.Lively) (finished : Finished y) :
    y.1.answer.isSome := by
  rcases run.answered_or_stuck finished with answered | ⟨⟨updates, -, stuck⟩, -⟩
  · exact answered
  · exact absurd rfl (lively.not_stuck stuck)

/-- **An answer is an outcome of the task**, in the state that its updates lead to. -/
theorem Reaches.ends {task : Task σ ε α} {state : σ} {y : Lane σ ε α × List Due}
    (run : Reaches (begun task state) y) {a : Answer σ ε α} (answer : y.1.answer = some a) :
    ∃ updates, a.state = perform updates state ∧ task.Ends a.outcome updates := by
  obtain ⟨updates, same, stands⟩ := (run.kept (kept_begun task state)).sound.answered a answer
  exact ⟨updates, same, stands.ends _ rfl⟩

/-- **The moment of an answer.** -/
theorem Reaches.answered_at {task : Task σ ε α} {state : σ} {y : Lane σ ε α × List Due}
    (run : Reaches (begun task state) y) {a : Answer σ ε α} (answer : y.1.answer = some a) :
    ∃ z, Reaches (begun task state) z ∧ z.1.state = a.state := by
  obtain ⟨n, rfl⟩ := run
  induction n with
  | zero => cases answer
  | succ n ih =>
    rw [Function.iterate_succ_apply'] at answer
    rcases answered_turn answer with before | now
    · exact ih before
    · exact ⟨_, ⟨n + 1, Function.iterate_succ_apply' _ _ _⟩, now.symm⟩

theorem Reaches.refl (x : Lane σ ε α × List Due) : Reaches x x := ⟨0, rfl⟩

theorem Reaches.turn (x : Lane σ ε α × List Due) : Reaches x (turn x) := ⟨1, rfl⟩

theorem Reaches.trans {x y z : Lane σ ε α × List Due} (first : Reaches x y)
    (second : Reaches y z) : Reaches x z := by
  obtain ⟨n, rfl⟩ := first
  obtain ⟨m, rfl⟩ := second
  exact ⟨m + n, Function.iterate_add_apply _ _ _ _⟩

/-- Where nothing is due, nothing happens. -/
theorem Reaches.of_quiet {x y : Lane σ ε α × List Due} (run : Reaches x y) (quiet : x.2 = []) :
    y = x := by
  obtain ⟨l, queue⟩ := x
  subst quiet
  exact run.keeps (P := fun y => y = (l, [])) (fun _ h => by rw [h]; rfl) rfl

/-- A lane of which the root has run for the first time. -/
theorem turn_begun_of_ended {task : Task σ ε α} {s s' : σ} {outcome : Except ε α}
    (ended : task.advance s = (.ended outcome, s')) : turn (begun task s) =
      ({ state := s', root := .node (.ended outcome) [], answer := some ⟨outcome, s'⟩ }, []) := by
  simp [begun, turn, fresh, handle, settle, put, Process.fresh, Process.put, dueAfter, ended,
    Task.Stop.stage, Task.Stop.started, Task.Stop.outcome?]

/-- **A task that ends in its first turn**: there is nothing else in its lane. -/
theorem Reaches.of_ended {task : Task σ ε α} {s s' : σ} {outcome : Except ε α}
    (ended : task.advance s = (.ended outcome, s')) {y : Lane σ ε α × List Due}
    (run : Reaches (begun task s) y) : y = begun task s ∨ y = Lane.turn (begun task s) := by
  obtain ⟨n, rfl⟩ := run
  cases n with
  | zero => exact .inl rfl
  | succ n =>
    right
    have rest : Reaches (Lane.turn (begun task s)) (Lane.turn^[n] (Lane.turn (begun task s))) :=
      ⟨n, rfl⟩
    exact rest.of_quiet (by rw [turn_begun_of_ended ended])

/-- Of two runs from the same lane, one goes on from the other. -/
theorem Reaches.total {x y z : Lane σ ε α × List Due} (first : Reaches x y)
    (second : Reaches x z) : Reaches y z ∨ Reaches z y := by
  obtain ⟨n, rfl⟩ := first
  obtain ⟨m, rfl⟩ := second
  rcases Nat.le_total n m with le | le
  · obtain ⟨k, rfl⟩ := Nat.exists_eq_add_of_le' le
    exact .inl ⟨k, (Function.iterate_add_apply _ _ _ _).symm⟩
  · obtain ⟨k, rfl⟩ := Nat.exists_eq_add_of_le' le
    exact .inr ⟨k, (Function.iterate_add_apply _ _ _ _).symm⟩

/-- A finished lane does not come to anything else by going on. -/
theorem agree_of_reaches {task : Task σ ε α} {state : σ} {y z : Lane σ ε α × List Due}
    (kept : Kept task state y) (finished : Finished y) (run : Reaches y z) :
    y.1.answer = z.1.answer ∧ (y.1.answer = none → y.1 = z.1) := by
  rcases finished with answered | quiet
  · obtain ⟨a, answer⟩ := Option.isSome_iff_exists.1 answered
    rw [run.answer kept answer, answer]
    exact ⟨rfl, nofun⟩
  · rw [run.of_quiet quiet]
    exact ⟨rfl, fun _ => rfl⟩

/-- **All finished runs of a lane agree** on the answer, and if there is none, on the lane. -/
theorem Reaches.agree {task : Task σ ε α} {state : σ} {y z : Lane σ ε α × List Due}
    (first : Reaches (begun task state) y) (second : Reaches (begun task state) z)
    (finished : Finished y) (finished' : Finished z) :
    y.1.answer = z.1.answer ∧ (y.1.answer = none → y.1 = z.1) := by
  have kept := kept_begun task state
  rcases first.total second with run | run
  · exact agree_of_reaches (first.kept kept) finished run
  · obtain ⟨same, whole⟩ := agree_of_reaches (second.kept kept) finished' run
    exact ⟨same.symm, fun none_ => (whole (same.trans none_)).symm⟩

end Lane

/-! ## The lanes of a machine -/

namespace Machine

variable {n : Nat}

/-- What is due in a lane, in the order of the queue. -/
def dueIn (lane : Fin n) (queue : List (Fin n × Due)) : List Due :=
  queue.filterMap fun entry => if entry.1 = lane then some entry.2 else none

/-- **A machine seen from one lane.** -/
def view (m : Machine n σ ε α) (lane : Fin n) : Lane σ ε α × List Due :=
  (m.lanes.get lane, dueIn lane m.queue)

theorem dueIn_append (lane : Fin n) (queue more : List (Fin n × Due)) :
    dueIn lane (queue ++ more) = dueIn lane queue ++ dueIn lane more :=
  List.filterMap_append

theorem dueIn_map_self (lane : Fin n) (dues : List Due) :
    dueIn lane (dues.map fun due => (lane, due)) = dues := by
  simp [dueIn, List.filterMap_map]

theorem dueIn_map_other {lane other : Fin n} (h : other ≠ lane) (dues : List Due) :
    dueIn lane (dues.map fun due => (other, due)) = [] := by
  simp [dueIn, List.filterMap_map, h]

/-- What is done in a lane is its turn. -/
theorem view_handle_self {m : Machine n σ ε α} {lane : Fin n} {due : Due}
    {rest : List (Fin n × Due)} (queue : m.queue = (lane, due) :: rest) :
    (m.handle lane due rest).view lane = Lane.turn (m.view lane) := by
  have first : dueIn lane m.queue = due :: dueIn lane rest := by
    rw [queue, dueIn, List.filterMap_cons, if_pos rfl]
    rfl
  have same : (m.handle lane due rest).lanes.get lane = ((m.lanes.get lane).handle due).1 :=
    Vector.getElem_set_self lane.isLt
  rw [view, same, view, first, Lane.turn, handle, dueIn_append, dueIn_map_self]
  rfl

/-- What is done in a lane leaves the others as they are. -/
theorem view_handle_other {m : Machine n σ ε α} {lane other : Fin n} {due : Due}
    {rest : List (Fin n × Due)} (queue : m.queue = (lane, due) :: rest) (h : lane ≠ other) :
    (m.handle lane due rest).view other = m.view other := by
  have first : dueIn other m.queue = dueIn other rest := by
    rw [queue, dueIn, List.filterMap_cons, if_neg h]
    rfl
  have same : (m.handle lane due rest).lanes.get other = m.lanes.get other :=
    Vector.getElem_set_ne lane.isLt other.isLt fun same => h (Fin.ext same)
  rw [view, same, view, first, handle, dueIn_append, dueIn_map_other h, List.append_nil]

/-- **A turn of the machine**, seen from any of its lanes. -/
theorem reaches_turn {m m' : Machine n σ ε α} (h : m.turn? = some m') (lane : Fin n) :
    Lane.Reaches (m.view lane) (m'.view lane) := by
  unfold turn? at h
  split at h
  · cases h
  · split at h
    · cases h
    · rename_i first due rest queue
      rw [Option.some.injEq] at h
      subst h
      by_cases hl : first = lane
      · subst hl
        rw [view_handle_self queue]
        exact .turn _
      · rw [view_handle_other queue hl]
        exact .refl _

/-- **Turns of the machine**, seen from any of its lanes. -/
theorem reaches_turns {m m' : Machine n σ ε α}
    (h : Relation.ReflTransGen (fun a b : Machine n σ ε α => a.turn? = some b) m m')
    (lane : Fin n) : Lane.Reaches (m.view lane) (m'.view lane) := by
  induction h with
  | refl => exact .refl _
  | tail _ turned ih => exact ih.trans (reaches_turn turned lane)

/-- When a machine has stopped, each of its lanes is finished. -/
theorem finished_of_stopped {m : Machine n σ ε α} (stopped : m.turn? = none) (lane : Fin n) :
    Lane.Finished (m.view lane) := by
  unfold turn? at stopped
  split at stopped
  · rename_i answered
    rw [isAnswered, Vector.all_eq_true] at answered
    exact .inl (answered lane lane.isLt)
  · split at stopped
    · rename_i queue
      refine .inr ?_
      rw [view, queue]
      rfl
    · cases stopped

/-- **A run of the machine**, seen from any of its lanes. -/
theorem reaches_run (m : Machine n σ ε α) (lane : Fin n) :
    Lane.Reaches (m.view lane) (m.run.view lane) ∧ Lane.Finished (m.run.view lane) := by
  induction m using wellFounded_closer.induction with
  | h m ih =>
    cases turned : m.turn? with
    | none =>
      rw [run_of_turn?_eq_none turned]
      exact ⟨.refl _, finished_of_stopped turned lane⟩
    | some m' =>
      rw [run_of_turn?_eq_some turned]
      obtain ⟨reaches, finished⟩ := ih m' (closer_turn turned)
      exact ⟨(reaches_turn turned lane).trans reaches, finished⟩

/-- A machine runs until a lane is finished, and for the others some way. -/
theorem reaches_runUntil (lane : Fin n) (m : Machine n σ ε α) :
    (∀ other, Lane.Reaches (m.view other) ((m.runUntil lane).view other)) ∧
      Lane.Finished ((m.runUntil lane).view lane) := by
  induction m using wellFounded_closer.induction with
  | h m ih =>
    rw [runUntil]
    split
    · rename_i answered
      exact ⟨fun _ => .refl _, .inl answered⟩
    · split
      · rename_i stopped
        exact ⟨fun _ => .refl _, finished_of_stopped stopped lane⟩
      · rename_i m' turned
        obtain ⟨reaches, finished⟩ := ih m' (closer_turn turned)
        exact ⟨fun other => (reaches_turn turned other).trans (reaches other), finished⟩

/-! ## Roots -/

variable (roots : Vector (Task σ ε α × σ) n)

theorem view_idle (lane : Fin n) :
    (idle roots).view lane = (.fresh (roots.get lane).1 (roots.get lane).2, []) := by
  rw [view, Prod.mk.injEq]
  exact ⟨Vector.getElem_map _ lane.isLt, rfl⟩

/-- When all roots are due, each is so once. -/
theorem dueIn_roots (lane : Fin n) :
    dueIn lane ((List.finRange n).map fun lane => (lane, Due.run [])) = [.run []] := by
  obtain ⟨before, after, all⟩ := List.append_of_mem (List.mem_finRange lane)
  have once := List.nodup_finRange n
  rw [all, List.nodup_append, List.nodup_cons] at once
  have elsewhere (lanes : List (Fin n)) (h : lane ∉ lanes) :
      dueIn lane (lanes.map fun lane => (lane, Due.run [])) = [] := by
    rw [dueIn, List.filterMap_map, List.filterMap_eq_nil_iff]
    rintro other mem
    have ne : other ≠ lane := fun same => h (same ▸ mem)
    exact if_neg ne
  have self : dueIn lane [(lane, Due.run [])] = [.run []] := dueIn_map_self lane [.run []]
  rw [all, List.map_append, List.map_cons, dueIn_append, ← List.singleton_append, dueIn_append,
    elsewhere before fun mem => once.2.2 lane mem lane List.mem_cons_self rfl,
    elsewhere after once.2.1.1, self]
  rfl

theorem view_start (lane : Fin n) :
    (start roots).view lane = Lane.begun (roots.get lane).1 (roots.get lane).2 := by
  rw [view, Lane.begun, Prod.mk.injEq]
  exact ⟨Vector.getElem_map _ lane.isLt, dueIn_roots lane⟩

/-- There is a finished run of every task. -/
theorem exists_finished (t : Task σ ε α) (s : σ) :
    ∃ y, Lane.Reaches (Lane.begun t s) y ∧ Lane.Finished y := by
  have run := reaches_run (start #v[(t, s)]) 0
  rw [view_start] at run
  exact ⟨_, run⟩

theorem view_release_self (m : Machine n σ ε α) (lane : Fin n) :
    (m.release lane).view lane = (m.lanes.get lane, .run [] :: dueIn lane m.queue) := by
  simp [view, release, dueIn]

theorem view_release_other (m : Machine n σ ε α) {lane other : Fin n} (h : lane ≠ other) :
    (m.release lane).view other = m.view other := by
  simp [view, release, dueIn, h]

/-- **Lanes that are served one after the other** run as they do by themselves, and all are answered
if nothing hangs. A lane that is still to be served is as it was in the beginning: the others do not
touch it. -/
theorem reaches_serve {roots : Vector (Task σ ε α × σ) n}
    (lively : ∀ lane : Fin n, (roots.get lane).1.Lively) :
    ∀ {lanes : List (Fin n)} (m : Machine n σ ε α), lanes.Nodup →
      (∀ lane ∈ lanes, m.view lane = (.fresh (roots.get lane).1 (roots.get lane).2, [])) →
      (∀ lane ∈ lanes, Lane.Reaches (Lane.begun (roots.get lane).1 (roots.get lane).2)
          ((serve lanes m).view lane) ∧ ((serve lanes m).view lane).1.answer.isSome) ∧
        ∀ lane, lane ∉ lanes → Lane.Reaches (m.view lane) ((serve lanes m).view lane)
  | [], m, _, _ => ⟨nofun, fun _ _ => .refl _⟩
  | lane :: rest, m, once, waiting => by
    obtain ⟨notLater, once'⟩ := List.nodup_cons.1 once
    obtain ⟨reaches, finished⟩ := reaches_runUntil lane (m.release lane)
    have begins : (m.release lane).view lane = Lane.begun (roots.get lane).1 (roots.get lane).2 := by
      have idle := waiting lane List.mem_cons_self
      rw [view, Prod.mk.injEq] at idle
      rw [view_release_self, idle.1, idle.2]
      rfl
    have runs := begins ▸ reaches lane
    have answered := runs.answered (lively lane) finished
    -- The lanes that are still to be served have nothing due, so they do not move meanwhile.
    have still (other : Fin n) (mem : other ∈ rest) : ((m.release lane).runUntil lane).view other =
        (.fresh (roots.get other).1 (roots.get other).2, []) := by
      have ne : lane ≠ other := fun same => notLater (same ▸ mem)
      have idle := waiting other (List.mem_cons_of_mem _ mem)
      have run := reaches other
      rw [view_release_other m ne, idle] at run
      exact run.of_quiet rfl
    obtain ⟨served, others⟩ := reaches_serve lively _ once' still
    have goesOn : serve (lane :: rest) m = serve rest ((m.release lane).runUntil lane) :=
      if_pos answered
    rw [goesOn]
    refine ⟨?_, ?_⟩
    · intro other mem
      rcases List.mem_cons.1 mem with rfl | later
      · refine ⟨runs.trans (others other notLater), ?_⟩
        obtain ⟨a, answer⟩ := Option.isSome_iff_exists.1 answered
        have kept := runs.kept (Lane.kept_begun _ _)
        rw [(others other notLater).answer kept answer]
        rfl
      · exact served other later
    · intro other absent
      have ne : lane ≠ other := fun same => absent (same ▸ List.mem_cons_self)
      have run := reaches other
      rw [view_release_other m ne] at run
      exact run.trans (others other fun later => absent (List.mem_cons_of_mem _ later))

end Machine

end CallTree
