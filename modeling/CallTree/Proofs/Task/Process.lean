/-
# CallTree.Proofs.Task.Process — places in a running task, and what is always tidy there.

A change of one process leaves everything else in the tree at its place (`stage?_put`).

A process looks at the children that it waits for and at no others. In a tidy process
(`Process.Tidy`) this loses nothing: whatever is not waited for has succeeded, with everything below
it, unless it is below a failure. Every change that a machine makes keeps a process tidy
(`tidy_put`).
-/
import CallTree.Task.Process
import Mathlib.Logic.Basic

namespace CallTree

variable {σ ε α : Type}

theorem Stage.ready_ne_ended (task : Task σ ε α) (outcome : Except ε α) :
    Stage.ready task ≠ .ended outcome := nofun

theorem Stage.ready_ne_waiting (task : Task σ ε α) (first : Nat) (results : List (Option α))
    (next : List α → Task σ ε α) : Stage.ready task ≠ .waiting first results next := nofun

theorem Stage.waiting_ne_ended (first : Nat) (results : List (Option α)) (next : List α → Task σ ε α)
    (outcome : Except ε α) : Stage.waiting first results next ≠ .ended outcome := nofun

namespace Process

/-- A property of all processes, from those that a process has started to itself. -/
theorem induct {motive : Process σ ε α → Prop}
    (node : ∀ stage children, (∀ c ∈ children, motive c) → motive (.node stage children)) :
    ∀ p, motive p
  | .node stage children => node stage children fun c _ => induct node c

/-! ## Places in the tree -/

@[simp] theorem at?_nil (p : Process σ ε α) : p.at? [] = some p := rfl

theorem at?_cons (i : Nat) (path : List Nat) (stage : Stage σ ε α)
    (children : List (Process σ ε α)) :
    (node stage children).at? (i :: path) = children[i]?.bind (at? path) := by
  rw [at?]
  cases children[i]? <;> rfl

theorem at?_cons_eq_some_iff {i : Nat} {path : List Nat} {stage : Stage σ ε α}
    {children : List (Process σ ε α)} {p : Process σ ε α} :
    (node stage children).at? (i :: path) = some p ↔
      ∃ c, children[i]? = some c ∧ c.at? path = some p := by
  rw [at?_cons, Option.bind_eq_some_iff]

/-- The child of a process at a path. -/
theorem at?_concat {path : List Nat} {p : Process σ ε α} {stage : Stage σ ε α}
    {children : List (Process σ ε α)} (h : p.at? path = some (.node stage children)) (i : Nat) :
    p.at? (path ++ [i]) = children[i]? := by
  induction path generalizing p with
  | nil =>
    rw [at?_nil, Option.some.injEq] at h
    subst h
    rw [List.nil_append, at?_cons]
    cases children[i]? <;> rfl
  | cons j path ih =>
    obtain ⟨own, siblings⟩ := p
    obtain ⟨c, hc, inside⟩ := at?_cons_eq_some_iff.1 h
    rw [List.cons_append, at?_cons, hc]
    exact ih inside

/-- What the process at a path is at. -/
def stage? (path : List Nat) (p : Process σ ε α) : Option (Stage σ ε α) := (p.at? path).map stage

theorem stage?_of_at? {path : List Nat} {p : Process σ ε α} {own : Stage σ ε α}
    {children : List (Process σ ε α)} (h : p.at? path = some (.node own children)) :
    p.stage? path = some own := by
  rw [stage?, h]
  rfl

/-- What a child of the process at a path is at. -/
theorem stage?_concat {path : List Nat} {p : Process σ ε α} {own : Stage σ ε α}
    {children : List (Process σ ε α)} (here : p.at? path = some (.node own children)) (i : Nat) :
    p.stage? (path ++ [i]) = children[i]?.map stage := by
  rw [stage?, at?_concat here]

/-- What a change leaves at a path: what was put there, what was there, or something started. -/
theorem stage?_put {own own' : Stage σ ε α} {children started : List (Process σ ε α)}
    {found : Stage σ ε α} :
    ∀ {path place : List Nat} {p : Process σ ε α}, p.at? path = some (.node own children) →
      (p.put own' started path).stage? place = some found →
      place = path ∧ found = own' ∨ place ≠ path ∧ p.stage? place = some found ∨
        ∃ i c rest, started[i]? = some c ∧ place = path ++ (children.length + i) :: rest ∧
          c.stage? rest = some found
  | [], place, p, here, h => by
    rw [at?_nil, Option.some.injEq] at here
    subst here
    rw [put] at h
    cases place with
    | nil =>
      rw [stage?, at?_nil, Option.map_some, Option.some.injEq] at h
      exact .inl ⟨rfl, h.symm⟩
    | cons i rest =>
      right
      rw [stage?, at?_cons] at h
      rcases Nat.lt_or_ge i children.length with old | new
      · rw [List.getElem?_append_left old] at h
        exact .inl ⟨List.cons_ne_nil i rest, by rw [stage?, at?_cons]; exact h⟩
      · rw [List.getElem?_append_right new, Option.map_bind, Option.bind_eq_some_iff] at h
        obtain ⟨c, hc, inside⟩ := h
        refine .inr ⟨i - children.length, c, rest, hc, ?_, inside⟩
        rw [List.nil_append, Nat.add_sub_cancel' new]
  | j :: path, place, .node top siblings, here, h => by
    rw [put] at h
    cases place with
    | nil => exact .inr (.inl ⟨(List.cons_ne_nil j path).symm, h⟩)
    | cons i rest =>
      obtain ⟨c, hc, inside⟩ := at?_cons_eq_some_iff.1 here
      rw [stage?, at?_cons] at h
      -- The place is in the child that is changed, or in another, which is as it was.
      by_cases hij : j = i
      · subst hij
        rw [List.getElem?_modify_eq, hc] at h
        rcases stage?_put inside h with ⟨rfl, rfl⟩ | ⟨other, same⟩ | ⟨k, new, rest', hk, rfl, there⟩
        · exact .inl ⟨rfl, rfl⟩
        · refine .inr (.inl ⟨fun h => other (List.cons.inj h).2, ?_⟩)
          rw [stage?, at?_cons, hc]
          exact same
        · exact .inr (.inr ⟨k, new, rest', hk, rfl, there⟩)
      · rw [List.getElem?_modify_ne _ _ hij] at h
        refine .inr (.inl ⟨fun h => hij (List.cons.inj h).1.symm, ?_⟩)
        rw [stage?, at?_cons]
        exact h

/-- A process that has changed is where it was, with what it has started after the children that it
had. -/
theorem at?_put_self {own own' : Stage σ ε α} {children started : List (Process σ ε α)} :
    ∀ {path : List Nat} {p : Process σ ε α}, p.at? path = some (.node own children) →
      (p.put own' started path).at? path = some (.node own' (children ++ started))
  | [], p, here => by
    rw [at?_nil, Option.some.injEq] at here
    rw [here]
    rfl
  | i :: path, .node top siblings, here => by
    obtain ⟨c, hc, inside⟩ := at?_cons_eq_some_iff.1 here
    rw [put, at?_cons, List.getElem?_modify_eq, hc]
    exact at?_put_self inside

/-- A process that is put at a stage is there. -/
theorem stage?_put_self {own own' : Stage σ ε α} {children started : List (Process σ ε α)}
    {path : List Nat} {p : Process σ ε α} (here : p.at? path = some (.node own children)) :
    (p.put own' started path).stage? path = some own' :=
  stage?_of_at? (at?_put_self here)

/-- What a process has started is below it. -/
theorem stage?_put_started {own own' : Stage σ ε α} {children started : List (Process σ ε α)}
    {path : List Nat} {p : Process σ ε α} (here : p.at? path = some (.node own children)) (i : Nat) :
    (p.put own' started path).stage? (path ++ [children.length + i]) = started[i]?.map stage := by
  rw [stage?_concat (at?_put_self here), List.getElem?_append_right (Nat.le_add_right _ _),
    Nat.add_sub_cancel_left]

/-- All other processes are as they were. -/
theorem stage?_put_other {own own' : Stage σ ε α} {children started : List (Process σ ε α)}
    {found : Stage σ ε α} :
    ∀ {path place : List Nat} {p : Process σ ε α}, p.at? path = some (.node own children) →
      place ≠ path → p.stage? place = some found → (p.put own' started path).stage? place = some found
  | [], place, p, here, other, h => by
    rw [at?_nil, Option.some.injEq] at here
    subst here
    cases place with
    | nil => exact absurd rfl other
    | cons i rest =>
      rw [stage?, at?_cons, Option.map_bind, Option.bind_eq_some_iff] at h
      obtain ⟨c, hc, inside⟩ := h
      have old := (List.getElem?_eq_some_iff.1 hc).1
      rw [put, stage?, at?_cons, List.getElem?_append_left old, hc]
      exact inside
  | j :: path, place, .node top siblings, here, other, h => by
    obtain ⟨c, hc, inside⟩ := at?_cons_eq_some_iff.1 here
    cases place with
    | nil => exact h
    | cons i rest =>
      rw [stage?, at?_cons] at h
      rw [put, stage?, at?_cons]
      by_cases same : j = i
      · subst same
        rw [hc] at h
        rw [List.getElem?_modify_eq, hc]
        exact stage?_put_other inside (fun below => other (below ▸ rfl)) h
      · rw [List.getElem?_modify_ne _ _ same]
        exact h

/-! ## Tidy processes -/

/-- Whether a process has ended well. -/
def Succeeded (p : Process σ ε α) : Prop := ∃ a, p.stage = .ended (.ok a)

end Process

/-- How the children of a process stand at each of its stages: those that it no longer waits for
have succeeded, unless it has failed itself; and its results are theirs. -/
def Stage.Neat {σ ε α : Type} (children : List (Process σ ε α)) : Stage σ ε α → Prop
  | .ready task => (∀ c ∈ children, c.Succeeded) ∨ ∃ e, task = .fail e
  | .waiting first results _ =>
    children.length = first + results.length ∧
      (∀ i c, i < first → children[i]? = some c → c.Succeeded) ∧
      ∀ i a, results[i]? = some (some a) →
        ∃ c, children[first + i]? = some c ∧ c.stage = .ended (.ok a)
  | .ended (.ok _) => ∀ c ∈ children, c.Succeeded
  | .ended (.error _) => True
  | .hung => True

namespace Process

/-- **A tidy process**: nothing unfinished is forgotten, except below a failure. -/
inductive Tidy : Process σ ε α → Prop where
  | node {stage : Stage σ ε α} {children : List (Process σ ε α)} (neat : stage.Neat children)
      (below : ∀ c ∈ children, Tidy c) : Tidy (.node stage children)

theorem tidy_fresh (task : Task σ ε α) : (fresh task).Tidy :=
  .node (.inl nofun) nofun

/-- A brood has so many processes. -/
theorem length_brood (count : Nat) (child : Nat → Task σ ε α) : (brood count child).length = count := by
  rw [brood, List.length_map, List.length_range]

/-- Each of them has only been started. -/
theorem getElem?_brood {count i : Nat} {child : Nat → Task σ ε α} {c : Process σ ε α} :
    (brood count child)[i]? = some c ↔ i < count ∧ c = fresh (child i) := by
  rw [brood, List.getElem?_map, Option.map_eq_some_iff]
  constructor
  · rintro ⟨j, here, rfl⟩
    obtain ⟨bound, rfl⟩ := List.getElem?_eq_some_iff.1 here
    rw [List.length_range] at bound
    rw [List.getElem_range]
    exact ⟨bound, rfl⟩
  · rintro ⟨bound, rfl⟩
    exact ⟨i, List.getElem?_range bound, rfl⟩

/-- A task starts fresh children only. -/
theorem fresh_of_started {stop : Task.Stop σ ε α} {c : Process σ ε α} (h : c ∈ stop.started) :
    ∃ task, c = fresh task := by
  cases stop with
  | waiting count child next =>
    rw [Task.Stop.started, brood, List.mem_map] at h
    obtain ⟨i, _, rfl⟩ := h
    exact ⟨child i, rfl⟩
  | _ => cases h

/-- A ready process is as tidy after it has run. -/
theorem neat_stop {task : Task σ ε α} {children : List (Process σ ε α)}
    (neat : (Stage.ready task).Neat children) (s : σ) :
    ((task.advance s).1.stage children.length).Neat (children ++ (task.advance s).1.started) := by
  rcases neat with all | ⟨e, rfl⟩
  · cases (task.advance s).1 with
    | ended outcome =>
      rw [Task.Stop.started, List.append_nil]
      cases outcome with
      | ok a => exact all
      | error e => trivial
    | paused rest =>
      rw [Task.Stop.started, List.append_nil]
      exact .inl all
    | hung => trivial
    | waiting count child next =>
      refine ⟨by rw [List.length_append, Task.Stop.started, length_brood, List.length_replicate], ?_, ?_⟩
      · intro i c hi hc
        rw [List.getElem?_append_left hi] at hc
        exact all c (List.mem_of_getElem? hc)
      · intro i a hi
        rw [List.getElem?_replicate] at hi
        split at hi <;> cases hi
  · trivial

/-- Every process in a tidy one is tidy. -/
theorem Tidy.at? {path : List Nat} {p q : Process σ ε α} (tidy : p.Tidy)
    (h : p.at? path = some q) : q.Tidy := by
  induction path generalizing p with
  | nil =>
    rw [at?_nil, Option.some.injEq] at h
    exact h ▸ tidy
  | cons i path ih =>
    cases tidy with
    | node neat below =>
      obtain ⟨c, hc, inside⟩ := at?_cons_eq_some_iff.1 h
      exact ih (below c (List.mem_of_getElem? hc)) inside

theorem Tidy.neat {path : List Nat} {p : Process σ ε α} {stage : Stage σ ε α}
    {children : List (Process σ ε α)} (tidy : p.Tidy)
    (h : p.at? path = some (.node stage children)) : stage.Neat children := by
  cases tidy.at? h with
  | node neat below => exact neat

theorem Tidy.ofChildren {path : List Nat} {p : Process σ ε α} {stage : Stage σ ε α}
    {children : List (Process σ ε α)} (tidy : p.Tidy)
    (h : p.at? path = some (.node stage children)) : ∀ c ∈ children, c.Tidy := by
  cases tidy.at? h with
  | node neat below => exact below

/-- Everything below a success has succeeded. -/
theorem Succeeded.at? {path : List Nat} {p q : Process σ ε α} (done : p.Succeeded) (tidy : p.Tidy)
    (h : p.at? path = some q) : q.Succeeded := by
  induction path generalizing p with
  | nil =>
    rw [at?_nil, Option.some.injEq] at h
    exact h ▸ done
  | cons i path ih =>
    cases tidy with
    | @node stage children neat below =>
      obtain ⟨a, rfl⟩ := done
      obtain ⟨c, hc, inside⟩ := at?_cons_eq_some_iff.1 h
      have mem := List.mem_of_getElem? hc
      exact ih (neat c mem) (below c mem) inside

/-- A change of one child: the child at a place before it, which is the same unless it is the one. -/
theorem getElem?_of_modify {i j : Nat} {change : Process σ ε α → Process σ ε α}
    {children : List (Process σ ε α)} {c' : Process σ ε α}
    (h : (children.modify i change)[j]? = some c') :
    ∃ c, children[j]? = some c ∧ (c' = c ∨ i = j ∧ c' = change c) := by
  by_cases hij : i = j
  · subst hij
    rw [List.getElem?_modify_eq] at h
    obtain ⟨c, hc, rfl⟩ := Option.map_eq_some_iff.1 h
    exact ⟨c, hc, .inr ⟨rfl, rfl⟩⟩
  · rw [List.getElem?_modify_ne _ _ hij] at h
    exact ⟨c', h, .inl rfl⟩

/-- A stage stays neat when one child changes, if a success of that child stays. -/
theorem neat_modify {stage : Stage σ ε α} {children : List (Process σ ε α)} {i : Nat}
    {change : Process σ ε α → Process σ ε α} (neat : stage.Neat children)
    (keeps : ∀ c, children[i]? = some c → c.Succeeded → (change c).stage = c.stage) :
    stage.Neat (children.modify i change) := by
  have succeeded {j : Nat} {c' : Process σ ε α} (h : (children.modify i change)[j]? = some c')
      (before : ∀ c, children[j]? = some c → c.Succeeded) : c'.Succeeded := by
    obtain ⟨c, hc, rfl | ⟨rfl, rfl⟩⟩ := getElem?_of_modify h
    · exact before _ hc
    · obtain ⟨a, ha⟩ := before c hc
      exact ⟨a, (keeps c hc ⟨a, ha⟩).trans ha⟩
  have all (before : ∀ c ∈ children, c.Succeeded) :
      ∀ c ∈ children.modify i change, c.Succeeded := by
    intro c' mem
    obtain ⟨j, hj⟩ := List.mem_iff_getElem?.1 mem
    exact succeeded hj fun c hc => before c (List.mem_of_getElem? hc)
  cases stage with
  | ready task => exact neat.imp_left all
  | ended outcome =>
    cases outcome with
    | ok a => exact all neat
    | error e => trivial
  | hung => trivial
  | waiting first results next =>
    obtain ⟨length, before, collected⟩ := neat
    -- The number of children, those that are not waited for any more, and the results that are in.
    refine ⟨by rw [List.length_modify, length], ?_, ?_⟩
    · intro j c' hj h
      exact succeeded h fun c hc => before j c hj hc
    · intro j a hj
      obtain ⟨c, hc, ended⟩ := collected j a hj
      by_cases hij : i = first + j
      · subst hij
        exact ⟨change c, by rw [List.getElem?_modify_eq, hc]; rfl,
          (keeps c hc ⟨a, ended⟩).trans ended⟩
      · exact ⟨c, by rw [List.getElem?_modify_ne _ _ hij, hc], ended⟩

/-- A change below the top of a process leaves what the top is at. -/
theorem stage_put_cons (own : Stage σ ε α) (started : List (Process σ ε α)) (i : Nat)
    (path : List Nat) (p : Process σ ε α) : (p.put own started (i :: path)).stage = p.stage := by
  cases p
  rfl

/-- A change of a process that has not succeeded leaves all successes as they are. -/
theorem stage_put_of_succeeded {path : List Nat} {p : Process σ ε α} {own own' : Stage σ ε α}
    {children started : List (Process σ ε α)} (here : p.at? path = some (.node own children))
    (active : ∀ a, own ≠ .ended (.ok a)) (done : p.Succeeded) :
    (p.put own' started path).stage = p.stage := by
  cases path with
  | nil =>
    rw [at?_nil, Option.some.injEq] at here
    subst here
    obtain ⟨a, ended⟩ := done
    exact absurd ended (active a)
  | cons i path => exact stage_put_cons _ _ _ _ _

/-- **A tidy process stays tidy** when a process in it that has not succeeded changes. -/
theorem tidy_put {own own' : Stage σ ε α} {children started : List (Process σ ε α)}
    (active : ∀ a, own ≠ .ended (.ok a)) (neat : own'.Neat (children ++ started))
    (new : ∀ c ∈ started, c.Tidy) :
    ∀ {path : List Nat} {p : Process σ ε α}, p.Tidy → p.at? path = some (.node own children) →
      (p.put own' started path).Tidy
  | [], p, tidy, here => by
    rw [at?_nil, Option.some.injEq] at here
    subst here
    cases tidy with
    | node _ below =>
      refine .node neat ?_
      intro c mem
      rcases List.mem_append.1 mem with old | fresh
      · exact below c old
      · exact new c fresh
  | i :: path, .node top siblings, tidy, here => by
    obtain ⟨c, hc, inside⟩ := at?_cons_eq_some_iff.1 here
    cases tidy with
    | node neatTop below =>
      have there {c' : Process σ ε α} (h : siblings[i]? = some c') :
          c'.at? path = some (.node own children) := by
        rw [hc, Option.some.injEq] at h
        exact h ▸ inside
      refine .node ?_ ?_
      · exact neat_modify neatTop fun c' h done => stage_put_of_succeeded (there h) active done
      · intro c' mem
        obtain ⟨j, hj⟩ := List.mem_iff_getElem?.1 mem
        obtain ⟨c₀, h₀, rfl | ⟨rfl, rfl⟩⟩ := getElem?_of_modify hj
        · exact below _ (List.mem_of_getElem? h₀)
        · exact tidy_put active neat new (below c₀ (List.mem_of_getElem? h₀)) (there h₀)

/-! ## Results -/

/-- A complete list of results has as many values. -/
theorem length_of_complete {results : List (Option α)} {i : Nat} {a : α} {values : List α}
    (complete : results.set i (some a) = values.map some) : values.length = results.length := by
  have same := congrArg List.length complete
  rw [List.length_set, List.length_map] at same
  exact same.symm

/-- A process that has taken note of a result is neat. -/
theorem neat_told {first i : Nat} {results : List (Option α)} {next : List α → Task σ ε α}
    {children : List (Process σ ε α)} {c : Process σ ε α} {a : α}
    (neat : (Stage.waiting first results next).Neat children)
    (child : children[first + i]? = some c) (ended : c.stage = .ended (.ok a)) :
    (Stage.waiting first (results.set i (some a)) next).Neat children := by
  obtain ⟨length, before, collected⟩ := neat
  refine ⟨by rw [length, List.length_set], before, ?_⟩
  intro j v known
  by_cases hij : i = j
  · subst hij
    rw [List.getElem?_set] at known
    simp only [if_true, Option.ite_none_right_eq_some, Option.some.injEq] at known
    exact ⟨c, child, by rw [ended, known.2]⟩
  · rw [List.getElem?_set_ne hij] at known
    exact collected j v known

/-- When the last result is in, the results are those of the children. -/
theorem ended_of_joined {first i : Nat} {results : List (Option α)} {next : List α → Task σ ε α}
    {children : List (Process σ ε α)} {c : Process σ ε α} {a : α} {values : List α}
    (neat : (Stage.waiting first results next).Neat children)
    (child : children[first + i]? = some c) (ended : c.stage = .ended (.ok a))
    (complete : results.set i (some a) = values.map some) {j : Nat} {v : α}
    {c' : Process σ ε α} (value : values[j]? = some v) (child' : children[first + j]? = some c') :
    c'.stage = .ended (.ok v) := by
  have known : (results.set i (some a))[j]? = some (some v) := by
    rw [complete, List.getElem?_map, value]
    rfl
  obtain ⟨_, _, collected⟩ := neat_told neat child ended
  obtain ⟨c₀, h₀, stage⟩ := collected j v known
  rw [h₀, Option.some.injEq] at child'
  exact child' ▸ stage

/-- When the last result is in, all children have succeeded. -/
theorem succeeded_of_joined {first i : Nat} {results : List (Option α)}
    {next : List α → Task σ ε α} {children : List (Process σ ε α)} {c : Process σ ε α} {a : α}
    {values : List α} (neat : (Stage.waiting first results next).Neat children)
    (child : children[first + i]? = some c) (ended : c.stage = .ended (.ok a))
    (complete : results.set i (some a) = values.map some) : ∀ c ∈ children, c.Succeeded := by
  intro c' mem
  obtain ⟨k, hk⟩ := List.mem_iff_getElem?.1 mem
  have count := length_of_complete complete
  have bound : k < children.length := (List.getElem?_eq_some_iff.1 hk).1
  have length := neat.1
  rcases Nat.lt_or_ge k first with early | late
  · exact neat.2.1 k c' early hk
  · obtain ⟨j, rfl⟩ := Nat.exists_eq_add_of_le late
    have value : values[j]? = some values[j] := List.getElem?_eq_getElem (by omega)
    exact ⟨values[j], ended_of_joined neat child ended complete value hk⟩

end Process

end CallTree
