/-
# CallTree.Proofs.Task.Remainder — what may still come of a running task.

A process in the middle of a run is read by what may come of it from now on (`Process.Stands`): what it
is ready to do itself, or what the children that it waits for may do and then how it goes on. Beside
that its children may run on, also those of a failed process.

From that follows the one fact that runs rest on (`leads_put`): whatever one process anywhere in the
tree does, the tree as a whole does too.
-/
import CallTree.Proofs.Task.Process
import CallTree.Proofs.Task.Standing

namespace CallTree

/-- How a process at a stage stands, by its stage and by how its children stand. -/
inductive Stage.Shows {σ ε α : Type} (stood : Nat → Standing ε α) :
    Stage σ ε α → Standing ε α → Prop where
  | underway (stage : Stage σ ε α) : Shows stood stage .underway
  | hung : Shows stood .hung .stuck
  | failed (e : ε) : Shows stood (.ended (.error e)) (.ended (.error e))
  | failing (e : ε) : Shows stood (.ready (.fail e)) (.ended (.error e))
  | awaits {first : Nat} {results : List (Option α)} {next : List α → Task σ ε α}
      {standing : Standing ε α}
      (stands : Standing.Awaits results.length (fun i => stood (first + i)) standing) :
      Shows stood (.waiting first results next) standing

namespace Process

variable {σ ε α : Type}

/-- **`p.Stands standing updates`** — at some later moment, the process may have made these updates of
the state from now on, and this may have come of it. -/
inductive Stands : Process σ ε α → Standing ε α → List (σ → σ) → Prop where
  | begun (p : Process σ ε α) : Stands p .underway []
  | ended {a : α} {children : List (Process σ ε α)} :
      Stands (.node (.ended (.ok a)) children) (.ended (.ok a)) []
  | ready {task : Task σ ε α} {children : List (Process σ ε α)} {standing : Standing ε α}
      {updates : List (σ → σ)} (own : task.Stands standing updates) :
      Stands (.node (.ready task) children) standing updates
  /-- The children run on. -/
  | onward {stage : Stage σ ε α} {children : List (Process σ ε α)} {stood : Nat → Standing ε α}
      {parts : Nat → List (σ → σ)} {mixed : List (σ → σ)} {standing : Standing ε α}
      (each : ∀ i c, children[i]? = some c → Stands c (stood i) (parts i))
      (others : ∀ i, children.length ≤ i → parts i = []) (mixes : Interleaves parts mixed)
      (shows : stage.Shows stood standing) : Stands (.node stage children) standing mixed
  | joined {first : Nat} {results : List (Option α)} {next : List α → Task σ ε α}
      {children : List (Process σ ε α)} {values : List α} {parts : Nat → List (σ → σ)}
      {mixed updates : List (σ → σ)} {standing : Standing ε α}
      (length : values.length = results.length)
      (awaited : ∀ i v c, values[i]? = some v → children[first + i]? = some c →
        Stands c (.ended (.ok v)) (parts i))
      (others : ∀ i, results.length ≤ i → parts i = []) (mixes : Interleaves parts mixed)
      (rest : (next values).Stands standing updates) :
      Stands (.node (.waiting first results next) children) standing (mixed ++ updates)

/-- `Leads updates p p'`: whatever may come of `p'` may come of `p`, with some updates first. -/
def Leads (updates : List (σ → σ)) (p p' : Process σ ε α) : Prop :=
  ∀ standing later, p'.Stands standing later → p.Stands standing (updates ++ later)

/-- What one child does while the others do nothing. -/
theorem Stands.of_child {stage : Stage σ ε α} {children : List (Process σ ε α)} {i : Nat}
    {c : Process σ ε α} {stood standing : Standing ε α} {updates : List (σ → σ)}
    (child : children[i]? = some c) (stands : c.Stands stood updates)
    (shows : stage.Shows (Function.update (fun _ => .underway) i stood) standing) :
    (node stage children).Stands standing updates := by
  have bound : i < children.length := (List.getElem?_eq_some_iff.1 child).1
  refine .onward ?_ ?_ (.single i updates) shows
  · intro j c' here
    by_cases hj : j = i
    · subst hj
      rw [child, Option.some.injEq] at here
      rw [Function.update_self, Function.update_self, ← here]
      exact stands
    · rw [Function.update_of_ne hj, Function.update_of_ne hj]
      exact .begun c'
  · intro j hj
    rw [Function.update_of_ne (by omega)]

theorem stands_of_ended {p : Process σ ε α} {outcome : Except ε α} (h : p.stage = .ended outcome) :
    p.Stands (.ended outcome) [] := by
  obtain ⟨stage, children⟩ := p
  subst h
  cases outcome with
  | ok a => exact .ended
  | error e =>
    have nothing : Interleaves (fun _ => ([] : List (σ → σ))) [] := .nil fun _ => rfl
    exact .onward (fun _ c _ => .begun c) (fun _ _ => rfl) nothing (.failed e)

/-- Of a failed process nothing comes but its failure, whatever its children still do. -/
theorem Stands.of_failed {p : Process σ ε α} {e : ε} {standing : Standing ε α}
    {updates : List (σ → σ)} (stands : p.Stands standing updates) (failed : p.stage = .ended (.error e)) :
    p.Stands (.ended (.error e)) updates := by
  cases stands with
  | begun _ => exact stands_of_ended failed
  | onward each others mixes _ =>
    cases failed
    exact .onward each others mixes (.failed e)
  | _ => cases failed

/-- A process of which everything is done does nothing any more. -/
def Idle (p : Process σ ε α) : Prop :=
  ∀ standing updates, p.Stands standing updates → updates = []

theorem Succeeded.idle {p : Process σ ε α} (done : p.Succeeded) (tidy : p.Tidy) : p.Idle := by
  induction p using Process.induct with
  | node stage children ih =>
    obtain ⟨a, rfl⟩ := done
    cases tidy with
    | node neat tidyBelow =>
      intro standing updates stands
      cases stands with
      | begun _ => rfl
      | ended => rfl
      | @onward _ _ _ parts _ _ each others mixes _ =>
        refine mixes.eq_nil fun i => ?_
        rcases Nat.lt_or_ge i children.length with bound | beyond
        · have here : children[i]? = some children[i] := List.getElem?_eq_getElem bound
          have mem := List.getElem_mem bound
          exact ih _ mem (neat _ mem) (tidyBelow _ mem) _ _ (each i _ here)
        · exact others i beyond

/-- Children that do nothing leave no trace. -/
theorem mixed_of_idle {children : List (Process σ ε α)} {stood : Nat → Standing ε α}
    {parts : Nat → List (σ → σ)} {mixed : List (σ → σ)} (idle : ∀ c ∈ children, c.Idle)
    (each : ∀ (i : Nat) (c : Process σ ε α), children[i]? = some c → c.Stands (stood i) (parts i))
    (others : ∀ i, children.length ≤ i → parts i = []) (mixes : Interleaves parts mixed) :
    mixed = [] := by
  refine mixes.eq_nil fun i => ?_
  rcases Nat.lt_or_ge i children.length with bound | beyond
  · exact idle _ (List.getElem_mem bound) _ _ (each i _ (List.getElem?_eq_getElem bound))
  · exact others i beyond

/-! ## The step of one process is a step of the whole -/

/-- What a child does among the others, with some updates first. -/
theorem each_of_modify {updates : List (σ → σ)} {children : List (Process σ ε α)} {i : Nat}
    {c : Process σ ε α} {change : Process σ ε α → Process σ ε α} {stood : Nat → Standing ε α}
    {parts : Nat → List (σ → σ)} (child : children[i]? = some c) (h : Leads updates c (change c))
    (each : ∀ (j : Nat) (c' : Process σ ε α), (children.modify i change)[j]? = some c' →
      c'.Stands (stood j) (parts j)) (j : Nat) (c' : Process σ ε α) (here : children[j]? = some c') :
    c'.Stands (stood j) (Function.update parts i (updates ++ parts i) j) := by
  by_cases hj : j = i
  · subst hj
    rw [child, Option.some.injEq] at here
    subst here
    rw [Function.update_self]
    refine h _ _ (each j _ ?_)
    rw [List.getElem?_modify_eq, child]
    rfl
  · rw [Function.update_of_ne hj]
    refine each j c' ?_
    rw [List.getElem?_modify_ne _ _ (Ne.symm hj), here]

/-- A step of an awaited child is a step of the process that goes on with its result. -/
theorem stands_of_joined {updates : List (σ → σ)} {first i : Nat} {results : List (Option α)}
    {next : List α → Task σ ε α} {children : List (Process σ ε α)} {c : Process σ ε α}
    {change : Process σ ε α → Process σ ε α} (awaited : children[first + i]? = some c)
    (bound : i < results.length) (h : Leads updates c (change c)) {values : List α}
    {parts : Nat → List (σ → σ)} {mixed later : List (σ → σ)} {standing : Standing ε α}
    (length : values.length = results.length)
    (asked : ∀ j v c', values[j]? = some v →
      (children.modify (first + i) change)[first + j]? = some c' → c'.Stands (.ended (.ok v)) (parts j))
    (others : ∀ j, results.length ≤ j → parts j = []) (mixes : Interleaves parts mixed)
    (rest : (next values).Stands standing later) :
    (node (.waiting first results next) children).Stands standing (updates ++ (mixed ++ later)) := by
  rw [← List.append_assoc]
  refine .joined length ?_ ?_ (mixes.prepend i updates) rest
  · intro j v c' value here
    by_cases hj : j = i
    · subst hj
      rw [awaited, Option.some.injEq] at here
      subst here
      rw [Function.update_self]
      refine h _ _ (asked j v _ value ?_)
      rw [List.getElem?_modify_eq, awaited]
      rfl
    · rw [Function.update_of_ne hj]
      refine asked j v c' value ?_
      rw [List.getElem?_modify_ne _ _ (by omega), here]
  · intro j hj
    rw [Function.update_of_ne (by omega), others j hj]

/-- **Whatever one process does, the tree does.** The induction is on the path to that process. A
process that has ended well, or goes on by itself, has nothing unfinished below it. -/
theorem leads_put {updates : List (σ → σ)} {own own' : Stage σ ε α}
    {children started : List (Process σ ε α)} (active : ∀ a, own ≠ .ended (.ok a))
    (step : Leads updates (.node own children) (.node own' (children ++ started))) :
    ∀ {path : List Nat} {p : Process σ ε α}, p.Tidy → p.at? path = some (.node own children) →
      Leads updates p (p.put own' started path)
  | [], p, _, here => by
    rw [at?_nil, Option.some.injEq] at here
    subst here
    exact step
  | i :: path, .node top siblings, tidy, here => by
    obtain ⟨c, child, inside⟩ := at?_cons_eq_some_iff.1 here
    cases tidy with
    | node neat tidyBelow =>
      have tidyChild := tidyBelow c (List.mem_of_getElem? child)
      have unfinished : ¬ c.Succeeded := by
        intro done
        obtain ⟨a, ended⟩ := done.at? tidyChild inside
        exact active a ended
      have leads := leads_put active step tidyChild inside
      have first : c.Stands .underway updates := by
        have begun := leads _ _ (.begun _)
        rwa [List.append_nil] at begun
      rw [put]
      intro standing later stands
      cases stands with
      | begun _ =>
        rw [List.append_nil]
        exact .of_child child first (.underway top)
      | ended => exact absurd (neat c (List.mem_of_getElem? child)) unfinished
      | ready own =>
        rcases neat with all | ⟨e, rfl⟩
        · exact absurd (all c (List.mem_of_getElem? child)) unfinished
        · obtain ⟨rfl, rfl | rfl⟩ := own.of_fail
          · rw [List.append_nil]
            exact .of_child child first (.underway _)
          · rw [List.append_nil]
            exact .of_child child first (.failing e)
      | @onward _ _ _ parts _ _ each others mixes shows =>
        refine .onward (each_of_modify child leads each) ?_ (mixes.prepend i updates) shows
        intro j hj
        have bound : i < siblings.length := (List.getElem?_eq_some_iff.1 child).1
        rw [Function.update_of_ne (by omega), others j (by rw [List.length_modify]; exact hj)]
      | @joined start results _ _ _ _ _ _ _ length awaited others mixes rest =>
        obtain ⟨count, before, _⟩ := neat
        -- What is not waited for any more has succeeded, so the path goes through an awaited child.
        have later : start ≤ i := by
          by_contra h
          exact unfinished (before i c (by omega) child)
        have bound : i < siblings.length := (List.getElem?_eq_some_iff.1 child).1
        obtain ⟨j, rfl⟩ := Nat.exists_eq_add_of_le later
        exact stands_of_joined child (by omega) leads length awaited others mixes rest

/-! ## The steps that there are -/

/-- What may come of a fresh process may come of its task. -/
theorem stands_of_fresh {task : Task σ ε α} {standing : Standing ε α} {updates : List (σ → σ)}
    (h : (fresh task).Stands standing updates) : task.Stands standing updates := by
  cases h with
  | begun _ => exact .begun task
  | ready own => exact own
  | onward _ others mixes shows =>
    have nothing := mixes.eq_nil fun i => others i (Nat.zero_le i)
    subst nothing
    cases shows with
    | underway _ => exact .begun task
    | failing e => exact .done _

/-- A task that waits for children it has just started still has to do what it is, if all that it started
before is done. -/
theorem stands_of_waiting {count : Nat} {child : Nat → Task σ ε α} {next : List α → Task σ ε α}
    {children : List (Process σ ε α)} (idle : ∀ c ∈ children, c.Idle) {standing : Standing ε α}
    {later : List (σ → σ)}
    (h : (node ((Task.Stop.waiting count child next).stage children.length)
      (children ++ (Task.Stop.waiting count child next).started)).Stands standing later) :
    (Task.Stop.waiting count child next).task.Stands standing later := by
  have asked (i : Nat) (hi : i < count + 1) :
      (children ++ brood (count + 1) child)[children.length + i]? = some (fresh (child i)) := by
    rw [List.getElem?_append_right (by omega), Nat.add_sub_cancel_left]
    exact getElem?_brood.2 ⟨hi, rfl⟩
  have total : (children ++ brood (count + 1) child).length = children.length + (count + 1) := by
    rw [List.length_append, length_brood]
  cases h with
  | begun _ => exact .begun _
  | @onward _ _ stood parts _ _ each others mixes shows =>
    have early (i : Nat) (hi : i < children.length) : parts i = [] := by
      have here : children[i]? = some children[i] := List.getElem?_eq_getElem hi
      refine idle _ (List.getElem_mem hi) _ _ (each i _ ?_)
      rw [List.getElem?_append_left hi, here]
    refine .children (fun i hi => stands_of_fresh (each _ _ (asked i hi))) ?_
      (mixes.shift children.length early) ?_
    · exact fun i hi => others _ (by rw [Task.Stop.started, total]; omega)
    · cases shows with
      | underway _ => exact .underway
      | awaits stands =>
        rw [List.length_replicate] at stands
        exact stands
  | joined length awaited others mixes rest =>
    rw [List.length_replicate] at length others
    refine .gather length ?_ others mixes rest
    intro i v value
    have hi : i < count + 1 := length ▸ (List.getElem?_eq_some_iff.1 value).1
    exact stands_of_fresh (awaited i v _ value (asked i hi))

/-- What a stopped task leaves behind is still to do what the task is, if all that it started before is
done. -/
theorem stands_of_stop (stop : Task.Stop σ ε α) {children : List (Process σ ε α)}
    (idle : ∀ c ∈ children, c.Idle) {standing : Standing ε α} {later : List (σ → σ)}
    (h : (node (stop.stage children.length) (children ++ stop.started)).Stands standing later) :
    stop.task.Stands standing later := by
  -- Unless it has started children of its own, whatever is below it does nothing.
  have quiet {stood : Nat → Standing ε α} {parts : Nat → List (σ → σ)}
      (none : stop.started = [])
      (each : ∀ (i : Nat) (c : Process σ ε α), (children ++ stop.started)[i]? = some c →
        c.Stands (stood i) (parts i))
      (others : ∀ i, (children ++ stop.started).length ≤ i → parts i = [])
      (mixes : Interleaves parts later) : later = [] := by
    rw [none, List.append_nil] at each others
    exact mixed_of_idle idle each others mixes
  cases stop with
  | ended outcome =>
    cases h with
    | begun _ => exact .begun _
    | ended => exact .done _
    | onward each others mixes shows =>
      cases quiet rfl each others mixes
      cases shows with
      | underway _ => exact .begun _
      | failed e => exact .done _
  | paused rest =>
    cases h with
    | begun _ => exact .begun _
    | ready own => exact own
    | onward each others mixes shows =>
      cases quiet rfl each others mixes
      cases shows with
      | underway _ => exact .begun _
      | failing e => exact .done _
  | hung =>
    cases h with
    | begun _ => exact .begun _
    | onward each others mixes shows =>
      cases quiet rfl each others mixes
      cases shows with
      | underway _ => exact .begun _
      | hung => exact .hang
  | waiting count child next => exact stands_of_waiting idle h

/-- A process that has run until it stopped. -/
theorem leads_advance (task : Task σ ε α) (s : σ) {children : List (Process σ ε α)}
    (neat : (Stage.ready task).Neat children) (tidy : ∀ c ∈ children, c.Tidy) :
    ∃ updates, (task.advance s).2 = perform updates s ∧
      Leads updates (.node (.ready task) children)
        (.node ((task.advance s).1.stage children.length)
          (children ++ (task.advance s).1.started)) := by
  rcases neat with all | ⟨e, rfl⟩
  · have idle (c : Process σ ε α) (mem : c ∈ children) : c.Idle := (all c mem).idle (tidy c mem)
    obtain ⟨updates, state, leads⟩ := Task.leads_advance task s
    exact ⟨updates, state, fun standing later stands =>
      .ready (leads standing later (stands_of_stop _ idle stands))⟩
  · refine ⟨[], rfl, ?_⟩
    intro standing later stands
    have same : (node (.ended (.error e)) (children ++ [])).Stands standing later := stands
    rw [List.append_nil] at same
    cases same with
    | begun _ => exact .begun _
    | onward each others mixes shows =>
      cases shows with
      | underway _ => exact .onward each others mixes (.underway _)
      | failed e => exact .onward each others mixes (.failing e)

/-- A process that is told of a failure. -/
theorem leads_failed {first i : Nat} {results : List (Option α)} {next : List α → Task σ ε α}
    {children : List (Process σ ε α)} {c : Process σ ε α} {e : ε} (bound : i < results.length)
    (awaited : children[first + i]? = some c) (ended : c.stage = .ended (.error e)) :
    Leads [] (.node (.waiting first results next) children)
      (.node (.ready (.fail e)) (children ++ [])) := by
  have told (stood : Nat → Standing ε α) : (Stage.waiting first results next).Shows
      (Function.update stood (first + i) (.ended (.error e))) (.ended (.error e)) :=
    .awaits (.failed i bound (Function.update_self ..))
  rw [List.append_nil]
  intro standing later stands
  cases stands with
  | begun _ => exact .begun _
  | ready own =>
    obtain ⟨rfl, rfl | rfl⟩ := own.of_fail
    · exact .begun _
    · exact .of_child awaited (stands_of_ended ended) (told _)
  | @onward _ _ stood _ _ _ each others mixes shows =>
    cases shows with
    | underway _ => exact .onward each others mixes (.underway _)
    | failing e =>
      refine .onward ?_ others mixes (told stood)
      intro j c' here
      by_cases hj : j = first + i
      · subst hj
        rw [awaited, Option.some.injEq] at here
        subst here
        rw [Function.update_self]
        exact (each _ _ awaited).of_failed ended
      · rw [Function.update_of_ne hj]
        exact each j c' here

/-- A process that takes note of a result: what it waits for is the same. -/
theorem leads_told {first : Nat} {results results' : List (Option α)} {next : List α → Task σ ε α}
    {children : List (Process σ ε α)} (length : results'.length = results.length) :
    Leads [] (.node (.waiting first results next) children)
      (.node (.waiting first results' next) (children ++ [])) := by
  rw [List.append_nil]
  intro standing later stands
  rw [List.nil_append]
  cases stands with
  | begun _ => exact .begun _
  | onward each others mixes shows =>
    cases shows with
    | underway _ => exact .onward each others mixes (.underway _)
    | awaits stands => exact .onward each others mixes (.awaits (length ▸ stands))
  | joined known awaited others mixes rest =>
    exact .joined (known.trans length) awaited (length ▸ others) mixes rest

/-- A process that goes on with all its results. -/
theorem leads_joined {first : Nat} {results : List (Option α)} {next : List α → Task σ ε α}
    {children : List (Process σ ε α)} {values : List α} (length : values.length = results.length)
    (ended : ∀ i v c, values[i]? = some v → children[first + i]? = some c →
      c.stage = .ended (.ok v)) (idle : ∀ c ∈ children, c.Idle) :
    Leads [] (.node (.waiting first results next) children)
      (.node (.ready (next values)) (children ++ [])) := by
  have goesOn {standing : Standing ε α} {later : List (σ → σ)}
      (rest : (next values).Stands standing later) :
      (node (.waiting first results next) children).Stands standing ([] ++ later) := by
    have nothing : Interleaves (fun _ => ([] : List (σ → σ))) [] := .nil fun _ => rfl
    refine .joined length ?_ (fun _ _ => rfl) nothing rest
    exact fun i v c value here => stands_of_ended (ended i v c value here)
  rw [List.append_nil]
  intro standing later stands
  cases stands with
  | begun _ => exact .begun _
  | ready rest => exact goesOn rest
  | onward each others mixes shows =>
    cases mixed_of_idle idle each others mixes
    generalize same : next values = task at shows
    cases shows with
    | underway _ => exact .begun _
    | failing e => exact goesOn (same ▸ .done _)

end Process

end CallTree
