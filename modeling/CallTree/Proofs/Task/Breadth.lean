/-
# CallTree.Proofs.Task.Breadth — a task that never pauses runs level by level.

Whatever is done in a lane of a task that grows, its processes stand as they should, and the queue stays
in the order of its ranks (`Process.Level`). So the first fault that a process is told of is the soonest
of all below it (`Process.Level.least_of_told`), and the fault of the root is the soonest of the whole
task (`Lane.Reaches.outcome_of_grows`). What the task leaves in the trace of its state is in the order of
levels, and on each level from left to right (`Lane.Level`).
-/
import CallTree.Proofs.Task.Ranks

namespace CallTree

variable {σ ε α : Type}

section

variable {trace : σ → List Path} {F : Faults ε}
variable {root : Process σ ε α} {path : List Nat} {own own' : Stage σ ε α}
variable {children started : List (Process σ ε α)}

/-! ## Level by level -/

variable (trace F) in
/-- **A running task that is level**: its processes stand as they should, what is due is current, and the
queue is in order. -/
structure Process.Level (root : Process σ ε α) (queue : List Due) : Prop where
  grown : root.Grown trace F
  current : ∀ due ∈ queue, due.Current root
  spread : queue.Pairwise (Due.Spread trace F root)

/-- Nothing is due for a process that waits, except reports. -/
theorem Process.Level.not_due {queue : List Due} (level : root.Level trace F queue) {first : Nat}
    {results : List (Option α)} {next : List α → Task σ ε α}
    (here : root.at? path = some (.node (.waiting first results next) children)) :
    .run path ∉ queue := by
  intro mem
  obtain ⟨stage, found, notWaiting⟩ := level.current _ mem
  rw [stage?_of_at? here, Option.some.injEq] at found
  exact notWaiting first results next found.symm

/-- **A change of one process** in a level task, when what is due first is done. -/
theorem Process.Level.put {due : Due} {rest more : List Due} (level : root.Level trace F (due :: rest))
    (s : σ) (here : root.at? path = some (.node own children))
    (active : ∀ outcome, own ≠ .ended outcome)
    (still : .run path ∈ rest → ∃ outcome, own' = .ended outcome)
    (new : ∀ i c, started[i]? = some c → ∃ task, c = fresh task ∧
      task.Grows trace F (.ofPlace (path ++ [children.length + i])))
    (changed : own'.Grown trace F (root.put own' started path) path)
    (current : ∀ d ∈ more, d.Current (root.put own' started path))
    (ranks : ∀ d ∈ more, ∀ g k, d.Ranked trace F (root.put own' started path) g k →
      ∃ g₀ k₀, due.Ranked trace F root g₀ k₀ ∧ g = g₀ + 1 ∧ k₀ <+: k)
    (among : more.Pairwise fun d d' => ∀ g k g' k',
      d.Ranked trace F (root.put own' started path) g k →
        d'.Ranked trace F (root.put own' started path) g' k' → g' = g ∧ k.Left k') :
    (root.put own' started path).Level trace F (rest ++ more) := by
  have kept (d : Due) (mem : d ∈ rest) : d.Current root := level.current d (List.mem_cons_of_mem _ mem)
  have stays (d : Due) (mem : d ∈ rest) (same : d = .run path) : ∃ outcome, own' = .ended outcome :=
    still (same ▸ mem)
  refine ⟨level.grown.put s here new changed, ?_, ?_⟩
  · intro d mem
    rcases List.mem_append.1 mem with old | fresh
    · exact (kept d old).put here active (stays d old)
    · exact current d fresh
  · refine Due.spread_turn level.spread ?_ ranks among
    intro d mem g k ranked
    exact ranked.of_put (kept d mem) here active (stays d mem)

/-- **A process that waits** changes, and nothing is due for it. -/
theorem Process.Level.told {due : Due} {rest : List Due} (level : root.Level trace F (due :: rest))
    (s : σ) {first : Nat} {results results' : List (Option α)} {next : List α → Task σ ε α}
    (here : root.at? path = some (.node (.waiting first results next) children))
    (length : results'.length = results.length) :
    (root.put (.waiting first results' next) [] path).Level trace F (rest ++ []) := by
  obtain ⟨first_eq, passes, covers⟩ := level.grown _ _ (stage?_of_at? here)
  have absent := level.not_due here
  refine level.put s here (Stage.waiting_ne_ended first results next) (fun mem => ?_)
    (by intro i c none; cases none) ⟨first_eq, passes, length ▸ covers⟩ (List.forall_mem_nil _)
    (List.forall_mem_nil _) .nil
  exact absurd (List.mem_cons_of_mem _ mem) absent

/-- **A process that waits goes on**: it fails with the soonest fault below it, of which it is told, or
passes on what it has. -/
theorem Process.Level.wake {slot : Nat} {rest : List Due}
    (level : root.Level trace F (.report path slot :: rest)) (s : σ) {first : Nat}
    {results : List (Option α)} {next : List α → Task σ ε α}
    (here : root.at? path = some (.node (.waiting first results next) children)) {task : Task σ ε α}
    (goesOn : (∃ v e, task = .fail e ∧ root.stage? (path ++ [slot]) = some (.ended (.error e)) ∧
        F.Least (.ofPlace (path ++ [slot])) v e ∧ F.Least (.ofPlace path) v e) ∨
      task.Passes ∧ F.Free (.ofPlace path)) :
    (root.put (.ready task) [] path).Level trace F (rest ++ [.run path]) ∧
      ∀ task', ¬ (root.put (.ready task) [] path).Born trace F path task' := by
  have absent := level.not_due here
  have own : (root.put (.ready task) [] path).stage? path = some (.ready task) :=
    stage?_put_self here
  -- The process has children already, or only passes on what it has.
  have grownUp (task' : Task σ ε α) : ¬ (root.put (.ready task) [] path).Born trace F path task' := by
    intro born
    have same : task' = task := by
      have found := born.here
      rw [own, Option.some.injEq, Stage.ready.injEq] at found
      exact found.symm
    rcases goesOn with ⟨v, e, -, ended, -⟩ | ⟨passes, -⟩
    · have none := stage?_put_none here (born.childless slot)
      rw [ended] at none
      cases none
    · exact born.acts (same ▸ passes)
  refine ⟨level.put s here (Stage.waiting_ne_ended first results next)
    (fun mem => absurd (List.mem_cons_of_mem _ mem) absent) (by intro i c none; cases none) ?_ ?_ ?_
    (List.pairwise_singleton ..), grownUp⟩
  · rcases goesOn with ⟨v, e, rfl, -, -, least⟩ | passes
    · exact .inr (.inl ⟨v, e, rfl, least⟩)
    · exact .inr (.inr passes)
  · intro d mem
    rw [List.mem_singleton.1 mem]
    exact ⟨_, own, Stage.ready_ne_waiting task⟩
  · intro d mem g k ranked
    rw [List.mem_singleton.1 mem] at ranked
    cases ranked with
    | birth born => exact absurd born (grownUp _)
    | @failing _ v' e' _ found least' time =>
      rw [own, Option.some.injEq, Stage.ready.injEq] at found
      rcases goesOn with ⟨v, e, rfl, ended, least, climbed⟩ | ⟨passes, -⟩
      · obtain rfl := climbed.unique least'
        obtain ⟨g₀, before, time₀⟩ := Due.Ranked.exists_failed trace ended least
        exact ⟨g₀, k, before, by omega, List.prefix_refl _⟩
      · exact absurd (found ▸ passes) (Task.not_passes_fail _)

/-- **A process ends**: with the soonest fault below it, or well, when there is none. -/
theorem Process.Level.ended {rest : List Due} (level : root.Level trace F (.run path :: rest)) (s : σ)
    {task : Task σ ε α} (here : root.at? path = some (.node (.ready task) children))
    {outcome : Except ε α} (first : Nat)
    (ends : (∃ v e g, outcome = .error e ∧ F.Least (.ofPlace path) v e ∧
        (Due.run path).Ranked trace F root g v ∧ g + 2 * path.length = 3 * v.length) ∨
      ∃ a, outcome = .ok a ∧ F.Free (.ofPlace path)) :
    (root.put (.ended outcome) [] path).Level trace F
      (rest ++ Lane.dueAfter path first (.ended outcome : Task.Stop σ ε α)) := by
  have own : (root.put (.ended outcome) [] path).stage? path = some (.ended outcome) :=
    stage?_put_self here
  -- What is due afterwards is the report, if there is a parent.
  have report (d : Due) (mem : d ∈ Lane.dueAfter path first (.ended outcome : Task.Stop σ ε α)) :
      ∃ parent slot, d = .report parent slot ∧ path = parent ++ [slot] := by
    rcases path.eq_nil_or_concat' with rfl | ⟨parent, slot, rfl⟩
    · cases mem
    · simp only [Lane.dueAfter, List.getLast?_concat, List.dropLast_concat, List.mem_singleton] at mem
      exact ⟨parent, slot, mem, rfl⟩
  have alone : (Lane.dueAfter path first (.ended outcome : Task.Stop σ ε α)).Pairwise
      fun d d' => ∀ g k g' k', d.Ranked trace F (root.put (.ended outcome) [] path) g k →
        d'.Ranked trace F (root.put (.ended outcome) [] path) g' k' → g' = g ∧ k.Left k' := by
    simp only [Lane.dueAfter]
    split
    · exact .nil
    · exact List.pairwise_singleton ..
  refine level.put s here (Stage.ready_ne_ended task) (fun _ => ⟨outcome, rfl⟩)
    (by intro i c none; cases none) ?_ ?_ ?_ alone
  · rcases ends with ⟨v, e, g, rfl, least, -⟩ | ⟨a, rfl, free⟩
    · exact ⟨v, least⟩
    · exact free
  · intro d mem
    obtain ⟨parent, slot, rfl, rfl⟩ := report d mem
    exact ⟨outcome, own⟩
  · intro d mem g k ranked
    obtain ⟨parent, slot, rfl, rfl⟩ := report d mem
    cases ranked with
    | @failed _ _ v' e' _ found least' time =>
      rw [own, Option.some.injEq, Stage.ended.injEq] at found
      subst found
      rcases ends with ⟨v, e, g₀, same, least, popped, time₀⟩ | ⟨a, same, -⟩
      · obtain rfl := least.unique least'
        rw [List.length_append, List.length_singleton] at time₀
        exact ⟨g₀, k, popped, by omega, List.prefix_refl _⟩
      · cases same

/-- The rank of a process that has only begun, or fails at once. -/
theorem Due.Ranked.of_grows {place : List Nat} {task : Task σ ε α} {g : Nat} {k : Path}
    (ranked : (Due.run place).Ranked trace F root g k)
    (found : root.stage? place = some (.ready task)) (grows : task.Grows trace F (.ofPlace place)) :
    g = place.length ∧ k = .ofPlace place := by
  cases ranked with
  | birth _ => exact ⟨rfl, rfl⟩
  | failing fails least time =>
    rw [found, Option.some.injEq, Stage.ready.injEq] at fails
    subst fails
    cases grows with
    | fail least' =>
      obtain rfl := least'.unique least
      rw [Path.length_ofPlace] at time
      exact ⟨by omega, rfl⟩

/-- What has only begun has no children yet. -/
theorem Process.Born.no_children {task : Task σ ε α} (born : root.Born trace F path task)
    (here : root.at? path = some (.node own children)) : children = [] := by
  cases children with
  | nil => rfl
  | cons c _ =>
    have childless := born.childless 0
    rw [stage?_concat here] at childless
    cases childless

/-- **A process starts children**, all of which are on the next level, from left to right. -/
theorem Process.Level.waits {rest : List Due} (level : root.Level trace F (.run path :: rest)) (s : σ)
    {task : Task σ ε α} (here : root.at? path = some (.node (.ready task) children))
    (born : root.Born trace F path task) {count : Nat} {child : Nat → Task σ ε α}
    {next : List α → Task σ ε α}
    (grow : ∀ i, i < count + 1 → (child i).Grows trace F (.ofPlace path ++ [(i : Int)]))
    (covers : ∀ v e, F v e → Path.ofPlace path <+: v →
      ∃ i : Nat, i < count + 1 ∧ Path.ofPlace path ++ [(i : Int)] <+: v)
    (passes : ∀ values, (next values).Passes) :
    (root.put ((Task.Stop.waiting count child next).stage children.length)
        (Task.Stop.waiting count child next).started path).Level trace F
      (rest ++ Lane.dueAfter path children.length (.waiting count child next)) := by
  obtain rfl := born.no_children here
  have fresh (i : Nat) (bound : i < count + 1) :
      (root.put ((Task.Stop.waiting count child next).stage 0)
        (Task.Stop.waiting count child next).started path).stage? (path ++ [i]) =
          some (.ready (child i)) := by
    rw [← Nat.zero_add i]
    refine (stage?_put_started here i).trans ?_
    rw [Task.Stop.started, getElem?_brood.2 ⟨bound, rfl⟩, Nat.zero_add]
    rfl
  have grows (i : Nat) (bound : i < count + 1) :
      (child i).Grows trace F (.ofPlace (path ++ [i])) := by
    rw [Path.ofPlace_concat]
    exact grow i bound
  have due_eq (d : Due) (mem : d ∈ Lane.dueAfter path ([] : List (Process σ ε α)).length
      (.waiting count child next)) : ∃ i, i < count + 1 ∧ d = .run (path ++ [i]) := by
    obtain ⟨i, bound, rfl⟩ := List.mem_map.1 mem
    exact ⟨i, List.mem_range.1 bound, by rw [List.length_nil, Nat.zero_add]⟩
  have once := (Due.Ranked.birth born).not_again level.spread
  refine level.put s here (Stage.ready_ne_ended task) (fun mem => absurd mem once) ?_
    ⟨rfl, passes, ?_⟩ ?_ ?_ ?_
  · intro i c hc
    obtain ⟨bound, rfl⟩ := getElem?_brood.1 hc
    rw [List.length_nil, Nat.zero_add]
    exact ⟨child i, rfl, grows i bound⟩
  · intro v e fault below
    obtain ⟨i, bound, inside⟩ := covers v e fault below
    exact ⟨i, by rwa [List.length_replicate], by rwa [Path.ofPlace_concat]⟩
  · intro d mem
    obtain ⟨i, bound, rfl⟩ := due_eq d mem
    exact ⟨_, fresh i bound, Stage.ready_ne_waiting (child i)⟩
  · intro d mem g k ranked
    obtain ⟨i, bound, rfl⟩ := due_eq d mem
    obtain ⟨rfl, rfl⟩ := ranked.of_grows (fresh i bound) (grows i bound)
    refine ⟨_, _, .birth born, List.length_append, ?_⟩
    rw [Path.ofPlace_concat]
    exact List.prefix_append _ _
  · rw [Lane.dueAfter, List.pairwise_map]
    refine List.pairwise_lt_range.imp_of_mem ?_
    intro i j mem mem' lt g k g' k' ranked ranked'
    rw [List.length_nil, Nat.zero_add] at ranked ranked'
    have bound := List.mem_range.1 mem
    have bound' := List.mem_range.1 mem'
    obtain ⟨rfl, rfl⟩ := ranked.of_grows (fresh i bound) (grows i bound)
    obtain ⟨rfl, rfl⟩ := ranked'.of_grows (fresh j bound') (grows j bound')
    rw [Path.ofPlace_concat, Path.ofPlace_concat, List.length_append, List.length_append]
    exact ⟨rfl, Path.left_concat _ (by omega)⟩

/-- A process that has only begun, for which something is still due, had only begun before. -/
theorem Process.Level.born_of_rest {due : Due} {rest : List Due}
    (level : root.Level trace F (due :: rest)) (here : root.at? path = some (.node own children))
    (still : .run path ∈ rest → ∃ outcome, own' = .ended outcome) {place : List Nat}
    {task : Task σ ε α} (mem : .run place ∈ rest)
    (born : (root.put own' started path).Born trace F place task) : root.Born trace F place task := by
  obtain ⟨found, before, -⟩ := level.current _ (List.mem_cons_of_mem _ mem)
  refine born.of_put here ?_ before
  rintro rfl
  obtain ⟨outcome, rfl⟩ := still mem
  have ready := born.here
  rw [stage?_put_self here] at ready
  cases ready

/-- **A ready process runs** in a level task: only if it has just begun it starts children, on the next
level, or leaves its position in the trace. -/
theorem Process.Level.settle {rest : List Due} (level : root.Level trace F (.run path :: rest)) (s : σ)
    {task : Task σ ε α} (here : root.at? path = some (.node (.ready task) children)) :
    (root.put ((task.advance s).1.stage children.length) (task.advance s).1.started path).Level trace F
        (rest ++ Lane.dueAfter path children.length (task.advance s).1) ∧
      (∃ k, trace (task.advance s).2 = trace s ++ List.replicate k (.ofPlace path) ∧
        (k ≠ 0 → root.Born trace F path task)) ∧
      (.run path ∈ rest → ∃ outcome, (task.advance s).1.stage children.length = .ended outcome) ∧
      ∀ place, .run place ∈ Lane.dueAfter path children.length (task.advance s).1 →
        root.Born trace F path task ∧ path.length < place.length := by
  have nothing {outcome : Except ε α} (place : List Nat) (mem : .run place ∈
      Lane.dueAfter path children.length (.ended outcome : Task.Stop σ ε α)) : False := by
    simp only [Lane.dueAfter] at mem
    split at mem <;> simp at mem
  rcases level.grown _ _ (stage?_of_at? here) with born | ⟨v, e, rfl, least⟩ | ⟨passes, free⟩
  · obtain ⟨halts, k, marked⟩ := born.grows.advance s
    refine ⟨?_, ⟨k, marked, fun _ => born⟩, ?_, ?_⟩
    all_goals generalize (task.advance s).1 = stop at halts
    · cases halts with
      | succeeded a free => exact level.ended s here _ (.inr ⟨a, rfl, free⟩)
      | @failed e least =>
        exact level.ended s here _ (.inl ⟨_, e, _, rfl, least, .birth born,
          by rw [Path.length_ofPlace]; omega⟩)
      | waits grow covers passes => exact level.waits s here born grow covers passes
    · exact fun again => absurd again ((Due.Ranked.birth born).not_again level.spread)
    · intro place mem
      cases halts with
      | succeeded a free => exact (nothing place mem).elim
      | failed least => exact (nothing place mem).elim
      | waits grow covers passes =>
        obtain ⟨i, -, same⟩ := List.mem_map.1 mem
        cases same
        exact ⟨born, by rw [List.length_append, List.length_singleton]; omega⟩
  · obtain ⟨g, ranked, time⟩ := Due.Ranked.exists_failing trace (stage?_of_at? here) least
    refine ⟨level.ended s here _ (.inl ⟨v, e, g, rfl, least, ranked, time⟩), ?_, fun _ => ⟨_, rfl⟩, ?_⟩
    · exact ⟨0, (List.append_nil _).symm, fun h => absurd rfl h⟩
    · exact fun place mem => (nothing place mem).elim
  · obtain ⟨a, stops⟩ := passes.advance s
    rw [stops]
    refine ⟨level.ended s here _ (.inr ⟨a, rfl, free⟩), ?_, fun _ => ⟨_, rfl⟩, ?_⟩
    · exact ⟨0, (List.append_nil _).symm, fun h => absurd rfl h⟩
    · exact fun place mem => (nothing place mem).elim

/-- **The first fault that a process is told of** is the soonest of all below it. What could be sooner
is on its way, and would have come first. -/
theorem Process.Level.least_of_told {rest : List Due} {i : Nat}
    (level : root.Level trace F (.report path i :: rest)) (tidy : root.Tidy)
    (booked : root.Booked (.report path i :: rest)) {results : List (Option α)}
    {next : List α → Task σ ε α}
    (here : root.at? path = some (.node (.waiting 0 results next) children)) {e : ε}
    (ended : root.stage? (path ++ [i]) = some (.ended (.error e))) :
    ∃ v, F.Least (.ofPlace (path ++ [i])) v e ∧ F.Least (.ofPlace path) v e := by
  obtain ⟨v, least⟩ := level.grown _ _ ended
  obtain ⟨-, -, covers⟩ := level.grown _ _ (stage?_of_at? here)
  obtain ⟨length, -, -⟩ := tidy.neat here
  have above : Path.ofPlace path <+: Path.ofPlace (path ++ [i]) := by
    rw [Path.ofPlace_concat]
    exact List.prefix_append _ _
  obtain ⟨g₀, popped, time⟩ := Due.Ranked.exists_failed trace ended least
  have first := (List.pairwise_cons.1 level.spread).1
  refine ⟨v, least, least.fault, above.trans least.below, ?_⟩
  intro u e' fault below
  obtain ⟨j, bound, inside⟩ := covers u e' fault below
  by_cases same : j = i
  · exact least.least u e' fault (same ▸ inside)
  · right
    have child : children[j]? = some children[j] := List.getElem?_eq_getElem (by omega)
    have there := (at?_concat here j).trans child
    rcases level.grown.on_the_way tidy booked fault _ _ there inside with
      ⟨e'', stage⟩ | ⟨due, mem, g, k, ranked, le⟩
    · -- The report of that child is due later, so its fault is as deep and further right, or deeper.
      have failed : root.stage? (path ++ [j]) = some (.ended (.error e'')) := by
        rw [stage?_concat here, child, Option.map_some, stage]
      obtain ⟨v', least'⟩ := level.grown _ _ failed
      have later : .report path j ∈ rest := by
        rcases List.mem_cons.1 (report_due tidy booked here bound failed) with again | later
        · exact absurd (Due.report.inj again).2 same
        · exact later
      obtain ⟨g', ranked', time'⟩ := Due.Ranked.exists_failed trace failed least'
      have order := first _ later _ _ _ _ popped ranked'
      have sooner : v.Sooner v' := by
        rcases order with ⟨equal, left⟩ | ⟨next, -⟩
        · exact left.sooner (by omega)
        · omega
      rcases least'.least u e' fault inside with ⟨rfl, -⟩ | after
      · exact sooner
      · exact sooner.trans after
    · -- What is still below is due later than this report, so it is deeper.
      rw [List.length_append, List.length_singleton] at le
      have late : g₀ ≤ g := by
        rcases List.mem_cons.1 mem with rfl | later
        · cases ranked with
          | failed ended' least' time' =>
            have deeper := least.length_le least'.fault least'.below
            omega
        · exact (first due later _ _ _ _ popped ranked).time_le
      exact .inl (by omega)

/-- **Where all children have ended well**, there is no fault below a process that waits for them. -/
theorem Process.Level.free_of_succeeded {queue : List Due} (level : root.Level trace F queue)
    {first : Nat} {results : List (Option α)} {next : List α → Task σ ε α}
    (here : root.at? path = some (.node (.waiting first results next) children))
    (length : results.length ≤ children.length) (all : ∀ c ∈ children, c.Succeeded) :
    F.Free (.ofPlace path) := by
  obtain ⟨-, -, covers⟩ := level.grown _ _ (stage?_of_at? here)
  intro v e fault below
  obtain ⟨j, bound, inside⟩ := covers v e fault below
  have child : children[j]? = some children[j] := List.getElem?_eq_getElem (by omega)
  obtain ⟨b, succeeded⟩ := all _ (List.mem_of_getElem? child)
  have found : root.stage? (path ++ [j]) = some (.ended (.ok b)) := by
    rw [stage?_concat here, child, Option.map_some, succeeded]
  exact level.grown _ _ found v e fault inside

end

/-! ## Lanes -/

namespace Lane

section

variable (trace : σ → List Path) (F : Faults ε)

/-- **A lane that runs level by level**: what its trace has is in the order of levels, and sooner than
all that is still to begin. -/
structure Level (x : Lane σ ε α × List Due) : Prop where
  level : x.1.root.Level trace F x.2
  sorted : (trace x.1.state).Pairwise fun p q => p = q ∨ p.Sooner q
  ahead : ∀ p ∈ trace x.1.state, ∀ place task, .run place ∈ x.2 →
    x.1.root.Born trace F place task → p.Sooner (.ofPlace place)

end

variable {trace : σ → List Path} {F : Faults ε}

theorem level_begun {task : Task σ ε α} (grows : task.Grows trace F []) {s : σ}
    (unmarked : trace s = []) : Level trace F (begun task s) := by
  have childless (i : Nat) : (Process.fresh task).stage? ([] ++ [i]) = none := rfl
  refine ⟨⟨?_, ?_, List.pairwise_singleton ..⟩, ?_, ?_⟩
  · intro place stage found
    obtain ⟨rfl, rfl⟩ := Process.stage?_fresh found
    exact Stage.grown_ready s found grows childless
  · intro due mem
    rw [List.mem_singleton.1 mem]
    exact ⟨_, rfl, Stage.ready_ne_waiting task⟩
  · show (trace s).Pairwise _
    rw [unmarked]
    exact .nil
  · intro p mem
    have none : p ∈ trace s := mem
    rw [unmarked] at none
    cases none

/-- What is due first is done, and nothing changes by it. -/
theorem Level.skip {l : Lane σ ε α} {due : Due} {rest : List Due}
    (level : Level trace F (l, due :: rest)) : Level trace F (l, rest ++ []) := by
  rw [List.append_nil]
  obtain ⟨⟨grown, current, spread⟩, sorted, ahead⟩ := level
  refine ⟨⟨grown, fun d mem => current d (List.mem_cons_of_mem _ mem), spread.of_cons⟩, sorted, ?_⟩
  exact fun p mem place task due' => ahead p mem place task (List.mem_cons_of_mem _ due')

/-- A change that leaves nothing in the trace, and starts nothing. -/
theorem Level.quiet {l : Lane σ ε α} {due : Due} {rest more : List Due} {path : List Nat}
    {own own' : Stage σ ε α} {children : List (Process σ ε α)}
    (level : Level trace F (l, due :: rest)) (here : l.root.at? path = some (.node own children))
    (still : .run path ∉ rest) (changed : (l.put path own' []).root.Level trace F (rest ++ more))
    (unborn : ∀ place task, .run place ∈ more →
      ¬ (l.put path own' []).root.Born trace F place task) :
    Level trace F (l.put path own' [], rest ++ more) := by
  refine ⟨changed, level.sorted, ?_⟩
  intro p mem place task due' born
  rcases List.mem_append.1 due' with old | new
  · have before := level.level.born_of_rest here (fun again => absurd again still) old born
    exact level.ahead p mem place task (List.mem_cons_of_mem _ old) before
  · exact absurd born (unborn place task new)

/-- **A process that waits goes on**: it fails with the soonest fault below it, or passes on what it
has. -/
theorem Level.wake {l : Lane σ ε α} {parent : List Nat} {slot : Nat} {rest : List Due}
    (level : Level trace F (l, .report parent slot :: rest)) {first : Nat} {results : List (Option α)}
    {next : List α → Task σ ε α} {children : List (Process σ ε α)}
    (here : l.root.at? parent = some (.node (.waiting first results next) children)) {task : Task σ ε α}
    (goesOn : (∃ v e, task = .fail e ∧ l.root.stage? (parent ++ [slot]) = some (.ended (.error e)) ∧
        F.Least (.ofPlace (parent ++ [slot])) v e ∧ F.Least (.ofPlace parent) v e) ∨
      task.Passes ∧ F.Free (.ofPlace parent)) :
    Level trace F ((l.wake parent task).1, rest ++ (l.wake parent task).2) := by
  obtain ⟨woken, unborn⟩ := level.level.wake l.state here goesOn
  have absent : .run parent ∉ rest := fun mem => level.level.not_due here (List.mem_cons_of_mem _ mem)
  refine level.quiet here absent woken ?_
  intro place task' mem
  cases List.mem_singleton.1 mem
  exact unborn task'

/-- **A ready process runs.** -/
theorem Level.settle {l : Lane σ ε α} {rest : List Due} {path : List Nat} {task : Task σ ε α}
    {children : List (Process σ ε α)} (level : Level trace F (l, .run path :: rest))
    (here : l.root.at? path = some (.node (.ready task) children)) :
    Level trace F (({ l with state := (task.advance l.state).2 }.settle path children.length
      (task.advance l.state).1).1, rest ++ dueAfter path children.length (task.advance l.state).1) := by
  obtain ⟨changed, ⟨k, marked, marks⟩, still, starts⟩ := level.level.settle l.state here
  -- What is marked now is the position of a process that has only begun, and all before was sooner.
  have own (p : Path) (mem : p ∈ List.replicate k (Path.ofPlace path)) :
      p = .ofPlace path ∧ l.root.Born trace F path task := by
    obtain ⟨some, same⟩ := List.mem_replicate.1 mem
    exact ⟨same, marks some⟩
  have first {p : Path} (mem : p ∈ trace l.state) (born : l.root.Born trace F path task) :
      p.Sooner (.ofPlace path) := level.ahead p mem path task List.mem_cons_self born
  refine ⟨changed, ?_, ?_⟩
  · show (trace (task.advance l.state).2).Pairwise _
    rw [marked, List.pairwise_append]
    refine ⟨level.sorted, List.pairwise_replicate.2 (.inr (.inl rfl)), ?_⟩
    intro p mem q new
    obtain ⟨rfl, born⟩ := own q new
    exact .inr (first mem born)
  · intro p mem place task' due' born'
    have mem : p ∈ trace (task.advance l.state).2 := mem
    rw [marked, List.mem_append] at mem
    rcases List.mem_append.1 due' with old | new
    · have before := level.level.born_of_rest here still old born'
      rcases mem with earlier | now
      · exact level.ahead p earlier place task' (List.mem_cons_of_mem _ old) before
      · obtain ⟨rfl, born⟩ := own p now
        have order := (List.pairwise_cons.1 level.level.spread).1 _ old _ _ _ _ (.birth born)
          (.birth before)
        rcases order with ⟨same, left⟩ | ⟨next, -⟩
        · exact left.sooner (by rw [Path.length_ofPlace, Path.length_ofPlace, same])
        · exact .inl (by rw [Path.length_ofPlace, Path.length_ofPlace]; omega)
    · obtain ⟨born, deeper⟩ := starts place new
      have le : p.length ≤ path.length := by
        rw [← Path.length_ofPlace path]
        rcases mem with earlier | now
        · exact (first earlier born).length_le
        · rw [(own p now).1]
      exact .inl (by rw [Path.length_ofPlace]; omega)

/-- **Step.** A lane that runs level by level does so after the next turn. -/
theorem Level.turn {task : Task σ ε α} {s : σ} {x : Lane σ ε α × List Due}
    (level : Level trace F x) (kept : Kept task s x) : Level trace F (turn x) := by
  obtain ⟨l, queue⟩ := x
  cases queue with
  | nil => exact level
  | cons due rest =>
    have tidy : l.root.Tidy := kept.sound.tidy
    have booked : l.root.Booked (due :: rest) := kept.booked
    have done := l.handled due
    rw [Lane.turn]
    generalize l.handle due = l' at done
    cases done with
    | run here => exact level.settle here
    | idle _ => exact level.skip
    | void _ => exact level.skip
    | @told parent first i results next children c a here child ended missing =>
      have absent : .run parent ∉ rest := fun mem =>
        level.level.not_due here (List.mem_cons_of_mem _ mem)
      exact level.quiet here absent
        (level.level.told l.state here (List.length_set ..)) (by intro place task mem; cases mem)
    | @failed parent first i results next children c e here child ended =>
      obtain ⟨rfl, -⟩ := level.level.grown _ _ (Process.stage?_of_at? here)
      rw [Nat.zero_add] at child level booked
      have failed : l.root.stage? (parent ++ [i]) = some (.ended (.error e)) := by
        rw [Process.stage?_concat here, child, Option.map_some, ended]
      obtain ⟨v, least, climbed⟩ := level.level.least_of_told tidy booked here failed
      exact level.wake here (.inl ⟨v, e, rfl, failed, least, climbed⟩)
    | @joined parent first i results next children c a values here child ended complete =>
      obtain ⟨rfl, passes, -⟩ := level.level.grown _ _ (Process.stage?_of_at? here)
      have neat := tidy.neat here
      have all := Process.succeeded_of_joined neat child ended (eq_map_of_complete? complete)
      have length : results.length ≤ children.length := by
        rw [neat.1]
        omega
      have free := level.level.free_of_succeeded here length all
      exact level.wake here (.inr ⟨passes values, free⟩)

/-- **Run.** A task that grows runs level by level. -/
theorem Reaches.level {task : Task σ ε α} {s : σ} {y : Lane σ ε α × List Due}
    (run : Reaches (begun task s) y) (grows : task.Grows trace F []) (unmarked : trace s = []) :
    Level trace F y :=
  (run.keeps (P := fun x => Kept task s x ∧ Level trace F x)
    (fun _ h => ⟨h.1.turn, h.2.turn h.1⟩) ⟨kept_begun task s, level_begun grows unmarked⟩).2

/-- **The outcome of a task that grows**: its soonest fault, or a success if it has none. -/
theorem Reaches.outcome_of_grows {task : Task σ ε α} {s : σ} {y : Lane σ ε α × List Due}
    (run : Reaches (begun task s) y) (grows : task.Grows trace F []) (unmarked : trace s = [])
    {a : Answer σ ε α} (answer : y.1.answer = some a) :
    (∃ v, a.outcome = .ok v ∧ F.Free []) ∨ ∃ e v, a.outcome = .error e ∧ F.Least [] v e := by
  have verdict := (run.kept (kept_begun task s)).sound.verdict
  rw [answer, Option.map_some] at verdict
  have stands := (run.level grows unmarked).level.grown [] _ rfl
  rw [Stage.ended_of_outcome? verdict.symm] at stands
  cases same : a.outcome with
  | ok v =>
    rw [same] at stands
    exact .inl ⟨v, rfl, stands⟩
  | error e =>
    rw [same] at stands
    obtain ⟨v, least⟩ := stands
    exact .inr ⟨e, v, rfl, least⟩

end Lane

end CallTree
