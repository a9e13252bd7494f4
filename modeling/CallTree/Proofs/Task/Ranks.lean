/-
# CallTree.Proofs.Task.Ranks — the turn of the queue at which something is due.

A lane does what is due first come, first served. In a task that grows a process begins in the turn of
its level. A fault takes two turns to climb one level: one for the report, and one for the parent that it
wakes. `Due.Ranked` counts these turns. The queue is in order if its ranks differ by one at most and go,
where they are equal, from left to right (`Due.Later`); it stays so when what becomes due has the next
rank (`Due.spread_turn`). No fault is forgotten: either the process that it has come to has failed, or
something is due in time (`Process.Grown.on_the_way`).
-/
import CallTree.Proofs.Task.Growth
import CallTree.Proofs.Task.Machine

namespace CallTree

variable {σ ε α : Type}

/-! ## Positions of processes -/

/-- The position of a place in a running task. -/
def Path.ofPlace (place : List Nat) : Path := place.map fun i : Nat => (i : Int)

theorem Path.ofPlace_concat (place : List Nat) (i : Nat) :
    ofPlace (place ++ [i]) = ofPlace place ++ [(i : Int)] := List.map_append

theorem Path.length_ofPlace (place : List Nat) : (ofPlace place).length = place.length :=
  List.length_map _

/-- What is below a place is no less deep. -/
theorem Path.place_length_le {place : List Nat} {v : Path} (below : ofPlace place <+: v) :
    place.length ≤ v.length := by
  rw [← length_ofPlace]
  exact below.length_le

/-! ## Processes -/

section

variable (trace : σ → List Path) (F : Faults ε)

/-- **A process that has only begun**: it is ready to grow, and has started nothing yet. -/
structure Process.Born (root : Process σ ε α) (place : List Nat) (task : Task σ ε α) : Prop where
  here : root.stage? place = some (.ready task)
  grows : task.Grows trace F (.ofPlace place)
  acts : ¬ task.Passes
  childless : ∀ i, root.stage? (place ++ [i]) = none

/-- **How the process at a place stands**, in a task that grows: it has only begun, or is ready to tell
of the soonest fault below it, or to pass on what it has; it waits for all of its children; or it has
ended. -/
def Stage.Grown (root : Process σ ε α) (place : List Nat) : Stage σ ε α → Prop
  | .ready task => root.Born trace F place task ∨
      (∃ v e, task = .fail e ∧ F.Least (.ofPlace place) v e) ∨
        task.Passes ∧ F.Free (.ofPlace place)
  | .waiting first results next => first = 0 ∧ (∀ values, (next values).Passes) ∧
      ∀ v e, F v e → Path.ofPlace place <+: v →
        ∃ i, i < results.length ∧ Path.ofPlace (place ++ [i]) <+: v
  | .ended (.ok _) => F.Free (.ofPlace place)
  | .ended (.error e) => ∃ v, F.Least (.ofPlace place) v e
  | .hung => False

/-- **All processes stand so.** -/
def Process.Grown (root : Process σ ε α) : Prop :=
  ∀ place stage, root.stage? place = some stage → stage.Grown trace F root place

/-- What is due for a process that may run, or tells of a child that has ended. -/
def Due.Current (root : Process σ ε α) : Due → Prop
  | .run place => ∃ stage, root.stage? place = some stage ∧
      ∀ first results next, stage ≠ .waiting first results next
  | .report parent slot => ∃ outcome, root.stage? (parent ++ [slot]) = some (.ended outcome)

/-- **The rank of what is due**: the turn of the queue at which it is done, and what it is about. A
process begins in the turn of its level. A fault begins to climb in the turn of its level, and climbs one
level in two turns. What only passes on results has no rank. -/
inductive Due.Ranked (root : Process σ ε α) : Due → Nat → Path → Prop where
  | birth {place : List Nat} {task : Task σ ε α} (born : root.Born trace F place task) :
      Ranked root (.run place) place.length (.ofPlace place)
  | failing {place : List Nat} {v : Path} {e : ε} {g : Nat}
      (here : root.stage? place = some (.ready (.fail e))) (least : F.Least (.ofPlace place) v e)
      (time : g + 2 * place.length = 3 * v.length) : Ranked root (.run place) g v
  | failed {parent : List Nat} {slot : Nat} {v : Path} {e : ε} {g : Nat}
      (here : root.stage? (parent ++ [slot]) = some (.ended (.error e)))
      (least : F.Least (.ofPlace (parent ++ [slot])) v e)
      (time : g + 2 * parent.length + 1 = 3 * v.length) : Ranked root (.report parent slot) g v

/-- What comes later in the queue: on the same level to the right, or on the next. What is on the next
level has come from what was further left. -/
def Due.Later (g : Nat) (k : Path) (g' : Nat) (k' : Path) : Prop :=
  g' = g ∧ k.Left k' ∨ g' = g + 1 ∧ k'.Left k

/-- Two entries of the queue that stand in the order of their ranks, if they have any. -/
def Due.Spread (root : Process σ ε α) (due due' : Due) : Prop :=
  ∀ g k g' k', due.Ranked trace F root g k → due'.Ranked trace F root g' k' → Later g k g' k'

end

/-! ## Changes -/

section

variable {trace : σ → List Path} {F : Faults ε}
variable {root : Process σ ε α} {path : List Nat} {own own' : Stage σ ε α}
variable {children started : List (Process σ ε α)}

/-- What is due for a process at a place that is there already is not for what is started. -/
theorem Process.stage?_of_put (here : root.at? path = some (.node own children)) {place : List Nat}
    {found found' : Stage σ ε α} (other : place ≠ path) (before : root.stage? place = some found)
    (after : (root.put own' started path).stage? place = some found') : found' = found := by
  rw [stage?_put_other here other before, Option.some.injEq] at after
  exact after.symm

/-- Where there was no process, there is none after a change elsewhere. -/
theorem Process.stage?_put_none (here : root.at? path = some (.node own children))
    {place : List Nat} (after : (root.put own' started path).stage? place = none) :
    root.stage? place = none := by
  cases before : root.stage? place with
  | none => rfl
  | some found =>
    by_cases same : place = path
    · subst same
      rw [stage?_put_self here] at after
      cases after
    · rw [stage?_put_other here same before] at after
      cases after

/-- A process that has only begun after a change elsewhere had only begun before. -/
theorem Process.Born.of_put {place : List Nat} {task : Task σ ε α}
    (born : (root.put own' started path).Born trace F place task)
    (here : root.at? path = some (.node own children)) (other : place ≠ path) {found : Stage σ ε α}
    (before : root.stage? place = some found) : root.Born trace F place task := by
  have same := stage?_of_put here other before born.here
  exact ⟨by rw [before, ← same], born.grows, born.acts,
    fun i => stage?_put_none here (born.childless i)⟩

/-- **Nothing else gets a rank** when one process changes. -/
theorem Due.Ranked.of_put {due : Due} {g : Nat} {k : Path}
    (ranked : due.Ranked trace F (root.put own' started path) g k) (current : due.Current root)
    (here : root.at? path = some (.node own children)) (active : ∀ outcome, own ≠ .ended outcome)
    (still : due = .run path → ∃ outcome, own' = .ended outcome) :
    due.Ranked trace F root g k := by
  -- What runs at the place of the change has ended, so it is not ready any more.
  have elsewhere {place : List Nat} {task : Task σ ε α} (same : due = .run place)
      (ready : (root.put own' started path).stage? place = some (.ready task)) : place ≠ path := by
    rintro rfl
    obtain ⟨outcome, rfl⟩ := still same
    rw [Process.stage?_put_self here] at ready
    cases ready
  cases ranked with
  | birth born =>
    obtain ⟨found, before, -⟩ := current
    exact .birth (born.of_put here (elsewhere rfl born.here) before)
  | failing ready least time =>
    obtain ⟨found, before, -⟩ := current
    have same := Process.stage?_of_put here (elsewhere rfl ready) before ready
    exact .failing (by rw [before, ← same]) least time
  | @failed parent slot v e g ended least time =>
    obtain ⟨outcome, before⟩ := current
    have other : parent ++ [slot] ≠ path := by
      rintro rfl
      rw [Process.stage?_of_at? here, Option.some.injEq] at before
      exact active outcome before
    have same := Process.stage?_of_put here other before ended
    exact .failed (by rw [before, ← same]) least time

/-- What is due stays current when one process changes. -/
theorem Due.Current.put {due : Due} (current : due.Current root)
    (here : root.at? path = some (.node own children)) (active : ∀ outcome, own ≠ .ended outcome)
    (still : due = .run path → ∃ outcome, own' = .ended outcome) :
    due.Current (root.put own' started path) := by
  cases due with
  | run place =>
    obtain ⟨found, before, notWaiting⟩ := current
    by_cases same : place = path
    · subst same
      obtain ⟨outcome, rfl⟩ := still rfl
      exact ⟨_, Process.stage?_put_self here, nofun⟩
    · exact ⟨found, Process.stage?_put_other here same before, notWaiting⟩
  | report parent slot =>
    obtain ⟨outcome, before⟩ := current
    refine ⟨outcome, Process.stage?_put_other here ?_ before⟩
    rintro same
    rw [same, Process.stage?_of_at? here, Option.some.injEq] at before
    exact active outcome before

/-- A task that grows is well placed in a process that has just started. -/
theorem Stage.grown_ready {place : List Nat} {task : Task σ ε α} (s : σ)
    (found : root.stage? place = some (.ready task)) (grows : task.Grows trace F (.ofPlace place))
    (childless : ∀ i, root.stage? (place ++ [i]) = none) :
    (Stage.ready task).Grown trace F root place := by
  by_cases passes : task.Passes
  · exact .inr (.inr ⟨passes, grows.free_of_passes s passes⟩)
  · exact .inl ⟨found, grows, passes, childless⟩

/-- **All processes stand as they should after a change**, if the one that changes does, and what it
starts is to grow. -/
theorem Process.Grown.put (grown : root.Grown trace F) (s : σ)
    (here : root.at? path = some (.node own children))
    (new : ∀ i c, started[i]? = some c → ∃ task, c = fresh task ∧
      task.Grows trace F (.ofPlace (path ++ [children.length + i])))
    (changed : own'.Grown trace F (root.put own' started path) path) :
    (root.put own' started path).Grown trace F := by
  intro place stage found
  rcases stage?_put here found with ⟨rfl, rfl⟩ | ⟨other, before⟩ | ⟨i, c, rest, hc, rfl, inside⟩
  · exact changed
  · have stands := grown place stage before
    cases stage with
    | ready task =>
      rcases stands with born | others
      · refine .inl ⟨found, born.grows, born.acts, ?_⟩
        intro i
        cases after : (root.put own' started path).stage? (place ++ [i]) with
        | none => rfl
        | some found' =>
          -- A child that was not there would have been started by this process.
          rcases stage?_put here after with ⟨rfl, -⟩ | ⟨-, old⟩ | ⟨j, c, rest, hc, same, inside⟩
          · have none := born.childless i
            rw [stage?_of_at? here] at none
            cases none
          · rw [born.childless i] at old
            cases old
          · obtain ⟨task', rfl, -⟩ := new j c hc
            obtain ⟨rfl, -⟩ := stage?_fresh inside
            exact absurd (List.append_inj_left' same rfl) other
      · exact .inr others
    | waiting first results next => exact stands
    | ended outcome => cases outcome <;> exact stands
    | hung => exact stands
  · obtain ⟨task, rfl, grows⟩ := new i c hc
    obtain ⟨rfl, rfl⟩ := stage?_fresh inside
    refine Stage.grown_ready s found grows ?_
    intro j
    have there : (root.put own' started path).at? (path ++ [children.length + i]) =
        some (fresh task) := by
      rw [at?_concat (at?_put_self here), List.getElem?_append_right (Nat.le_add_right _ _),
        Nat.add_sub_cancel_left, hc]
    rw [stage?_concat there]
    rfl

/-! ## Ranks of faults -/

/-- A process that is to fail has the rank of its fault, which climbs one level in two turns. -/
theorem Due.Ranked.exists_failing (trace : σ → List Path) {place : List Nat} {v : Path} {e : ε}
    (here : root.stage? place = some (.ready (.fail e))) (least : F.Least (.ofPlace place) v e) :
    ∃ g, (Due.run place).Ranked trace F root g v ∧ g + 2 * place.length = 3 * v.length := by
  have deep := Path.place_length_le least.below
  have time : 3 * v.length - 2 * place.length + 2 * place.length = 3 * v.length := by omega
  exact ⟨_, .failing here least time, time⟩

/-- So has the report of a child that has failed. -/
theorem Due.Ranked.exists_failed (trace : σ → List Path) {parent : List Nat} {slot : Nat} {v : Path}
    {e : ε}
    (here : root.stage? (parent ++ [slot]) = some (.ended (.error e)))
    (least : F.Least (.ofPlace (parent ++ [slot])) v e) :
    ∃ g, (Due.report parent slot).Ranked trace F root g v ∧
      g + 2 * parent.length + 1 = 3 * v.length := by
  have deep := Path.place_length_le least.below
  rw [List.length_append, List.length_singleton] at deep
  have time : 3 * v.length - 2 * parent.length - 1 + 2 * parent.length + 1 = 3 * v.length := by omega
  exact ⟨_, .failed here least time, time⟩

/-! ## The order of the queue -/

theorem Path.not_left_self (p : Path) : ¬ p.Left p := fun h => h.apart.1 (List.prefix_refl p)

theorem Due.Later.time_le {g g' : Nat} {k k' : Path} (h : Later g k g' k') : g ≤ g' := by
  rcases h with ⟨same, -⟩ | ⟨next, -⟩ <;> omega

/-- What has a rank is not in the queue twice. -/
theorem Due.Ranked.not_again {due : Due} {g : Nat} {k : Path} {rest : List Due}
    (ranked : due.Ranked trace F root g k) (spread : (due :: rest).Pairwise (Spread trace F root)) :
    due ∉ rest := by
  intro again
  rcases (List.pairwise_cons.1 spread).1 due again g k g k ranked ranked with ⟨-, left⟩ | ⟨next, -⟩
  · exact Path.not_left_self k left
  · omega

/-- **The queue stays in order** when what is first in it is done: what becomes due has the next rank,
and is about the same or what is below. -/
theorem Due.spread_turn {root' : Process σ ε α} {due : Due} {rest more : List Due}
    (spread : (due :: rest).Pairwise (Spread trace F root))
    (old : ∀ d ∈ rest, ∀ g k, d.Ranked trace F root' g k → d.Ranked trace F root g k)
    (new : ∀ d ∈ more, ∀ g k, d.Ranked trace F root' g k →
      ∃ g₀ k₀, due.Ranked trace F root g₀ k₀ ∧ g = g₀ + 1 ∧ k₀ <+: k)
    (among : more.Pairwise fun d d' => ∀ g k g' k', d.Ranked trace F root' g k →
      d'.Ranked trace F root' g' k' → g' = g ∧ k.Left k') :
    (rest ++ more).Pairwise (Spread trace F root') := by
  obtain ⟨first, others⟩ := List.pairwise_cons.1 spread
  rw [List.pairwise_append]
  refine ⟨?_, ?_, ?_⟩
  · refine others.imp_of_mem ?_
    intro d d' mem mem' stands g k g' k' ranked ranked'
    exact stands g k g' k' (old d mem g k ranked) (old d' mem' g' k' ranked')
  · exact among.imp fun stands g k g' k' ranked ranked' => .inl (stands g k g' k' ranked ranked')
  · intro d mem d' mem' g k g' k' ranked ranked'
    obtain ⟨g₀, k₀, popped, rfl, below⟩ := new d' mem' g' k' ranked'
    rcases first d mem g₀ k₀ g k popped (old d mem g k ranked) with ⟨rfl, left⟩ | ⟨rfl, left⟩
    · exact .inr ⟨rfl, left.extend below (List.prefix_refl k)⟩
    · exact .inl ⟨rfl, left.extend (List.prefix_refl k) below⟩

/-! ## Faults on their way -/

/-- A child that has failed has not been told of while its parent waits, so its report is due. -/
theorem Process.report_due {queue : List Due} (tidy : root.Tidy) (booked : root.Booked queue)
    {results : List (Option α)} {next : List α → Task σ ε α}
    (here : root.at? path = some (.node (.waiting 0 results next) children)) {i : Nat} {e : ε}
    (bound : i < results.length) (failed : root.stage? (path ++ [i]) = some (.ended (.error e))) :
    .report path i ∈ queue := by
  have untold : results[i]? = some none := by
    rw [List.getElem?_eq_getElem bound, Option.some.injEq]
    cases known : results[i] with
    | none => rfl
    | some a =>
      obtain ⟨-, -, collected⟩ := tidy.neat here
      obtain ⟨c, hc, succeeded⟩ := collected i a (by rw [List.getElem?_eq_getElem bound, known])
      rw [stage?_concat here, ← Nat.zero_add i, hc, Option.map_some, succeeded] at failed
      cases failed
  have report := (booked _ _ (stage?_of_at? here)).2 i untold (.error e)
  rw [Nat.zero_add] at report
  exact report failed

/-- **A fault is not forgotten**: the process at a place has failed, or something is due that is not
later than the fault takes to get there. -/
theorem Process.Grown.on_the_way {queue : List Due} (grown : root.Grown trace F) (tidy : root.Tidy)
    (booked : root.Booked queue) {u : Path} {e : ε} (fault : F u e) (p : Process σ ε α) :
    ∀ place, root.at? place = some p → Path.ofPlace place <+: u →
      (∃ e', p.stage = .ended (.error e')) ∨ ∃ due ∈ queue, ∃ g k, due.Ranked trace F root g k ∧
        g + 2 * place.length ≤ 3 * u.length := by
  induction p using Process.induct with
  | node stage children ih =>
    intro place here below
    have found := stage?_of_at? here
    have stands := grown place stage found
    have owed := booked place stage found
    cases stage with
    | ready task =>
      right
      rcases stands with born | ⟨v, e', rfl, least⟩ | ⟨-, free⟩
      · have deep := Path.place_length_le below
        exact ⟨_, owed, _, _, .birth born, by omega⟩
      · have le := least.length_le fault below
        obtain ⟨g, ranked, time⟩ := Due.Ranked.exists_failing trace found least
        exact ⟨_, owed, g, v, ranked, by omega⟩
      · exact absurd below (free u e fault)
    | waiting first results next =>
      obtain ⟨rfl, -, covers⟩ := stands
      obtain ⟨i, bound, inside⟩ := covers u e fault below
      obtain ⟨length, -, collected⟩ := tidy.neat here
      have child : children[i]? = some children[i] := List.getElem?_eq_getElem (by omega)
      have there := (at?_concat here i).trans child
      right
      rcases ih _ (List.mem_of_getElem? child) _ there inside with ⟨e', ended⟩ | ⟨due, mem, g, k, rank, le⟩
      · have failed : root.stage? (place ++ [i]) = some (.ended (.error e')) := by
          rw [stage?_concat here, child, Option.map_some, ended]
        obtain ⟨v, least⟩ := grown _ _ failed
        have report := report_due tidy booked here bound failed
        have le := least.length_le fault inside
        obtain ⟨g, ranked, time⟩ := Due.Ranked.exists_failed trace failed least
        exact ⟨_, report, g, v, ranked, by omega⟩
      · rw [List.length_append, List.length_singleton] at le
        exact ⟨due, mem, g, k, rank, by omega⟩
    | ended outcome =>
      cases outcome with
      | ok a => exact absurd below (stands u e fault)
      | error e' => exact .inl ⟨e', rfl⟩
    | hung => exact stands.elim

end

end CallTree
