/-
# CallTree.Proofs.Resolution.Growth — resolution grows level by level where resolvers are prompt.

A prompt resolver comes to its answer without letting others run (`Registry.Prompt`). If all are, and a
call tree has no conditional blocks, its resolution is a task that grows (`Task.Grows`): what it leaves in
the journal at a position is the call there, and the faults that end its processes are the violations of
the tree (`charted_resolve`).
-/
import CallTree.Proofs.Sequential.Breaches
import CallTree.Proofs.Task.Growth

namespace CallTree

open CallTree.Sequential

/-! ## Prompt resolvers -/

/-- **A script that comes to its outcome at once**: it may look at its context and write to it, and
neither pauses nor hangs. -/
inductive Script.Prompt (outcome : Except Failure Value) : Script → Prop where
  | done : Prompt outcome (.done outcome)
  | consult {state : Context → Table Value} {next : Context → Script}
      (rest : ∀ context, Prompt outcome (next context)) : Prompt outcome (.consult state next)

/-- **Resolvers that never let others run**, and depend on nothing but their arguments and the value
above. -/
def Registry.Prompt (r : Registry) (answers : Answers) : Prop :=
  ∀ owner name f, r.field? owner name = some f → ∀ args data,
    (f.resolve args data).Prompt (answers owner name args data)

theorem Script.Prompt.comesTo {s : Script} {outcome : Except Failure Value} (h : s.Prompt outcome) :
    s.ComesTo outcome := by
  induction h with
  | done => exact .done
  | consult _ ih => exact .consult ih

theorem Registry.Prompt.gives {r : Registry} {answers : Answers} (h : r.Prompt answers) :
    r.Gives answers :=
  fun owner name f found args data => (h owner name f found args data).comesTo

/-- Answers that are given without letting others run. -/
theorem Answers.prompt_registry (answers : Answers) (types : Table (Table Descriptor))
    (root : Table Descriptor) : (answers.registry (fun _ => 0) types root).Prompt answers := by
  intro owner name f found args data
  rw [field?_registry, Option.map_eq_some_iff] at found
  obtain ⟨type, -, rfl⟩ := found
  exact .done

namespace Resolution

/-! ## Charts -/

/-- The positions of the calls in a journal. -/
def positions (j : Journal) : List Path := j.calls.map Call.path

theorem positions_start (j : Journal) (call : Call) :
    positions (j.start call) = positions j ++ [call.path] := by
  simp [positions, Journal.calls, Journal.start]

theorem positions_finish (j : Journal) (call : Call) (outcome : Except Failure Value) :
    positions (j.finish call outcome) = positions j := by
  simp [positions, Journal.calls, Journal.finish]

theorem positions_setState (j : Journal) (state : Table Value) :
    positions (j.setState state) = positions j := rfl

/-- **A task at a position with exactly these violations.** -/
structure Charted (path : Path) (found : List Breach) (t : Work) : Prop where
  grows : t.Grows positions (fun v e => (v, e) ∈ found) path
  below : ∀ x ∈ found, path <+: x.1

theorem charted_succeed (path : Path) (v : Value) : Charted path [] (.succeed v) :=
  ⟨.succeed v nofun, nofun⟩

theorem charted_fail (path : Path) (e : Abort) : Charted path [(path, e)] (.fail e) := by
  refine ⟨.fail ⟨List.mem_singleton.2 rfl, List.prefix_refl _, fun u e' mem _ => ?_⟩, ?_⟩
  · rw [List.mem_singleton, Prod.mk.injEq] at mem
    exact .inl mem
  · intro x mem
    rw [List.mem_singleton.1 mem]

theorem Charted.andThen {path : Path} {found : List Breach} {t : Work} {k : Value → Work}
    (h : Charted path found t) (goesOn : ∀ v, (k v).Passes) : Charted path found (t.andThen k) :=
  ⟨h.grows.andThen goesOn, h.below⟩

/-- **Side by side**, each at its own position. -/
theorem charted_gatherAll {path : Path} {tasks : List Work} {parts : List (List Breach)}
    {next : List Value → Work} (length : parts.length = tasks.length)
    (each : ∀ (i : Nat) t part, tasks[i]? = some t → parts[i]? = some part →
      Charted (path ++ [(i : Int)]) part t)
    (goesOn : ∀ values, (next values).Passes) :
    Charted path parts.flatten (.gatherAll tasks next) := by
  have charted (i : Nat) (part : List Breach) (here : parts[i]? = some part) :
      i < tasks.length ∧ ∀ x ∈ part, path ++ [(i : Int)] <+: x.1 := by
    have bound := length ▸ (List.getElem?_eq_some_iff.1 here).1
    exact ⟨bound, (each i tasks[i] part (List.getElem?_eq_getElem bound) here).below⟩
  have part_of (x : Breach) (mem : x ∈ parts.flatten) :
      ∃ (i : Nat) (part : List Breach), parts[i]? = some part ∧ x ∈ part := by
    obtain ⟨part, among, inside⟩ := List.mem_flatten.1 mem
    obtain ⟨i, here⟩ := List.mem_iff_getElem?.1 among
    exact ⟨i, part, here, inside⟩
  refine ⟨.gatherAll ?_ ?_ goesOn, ?_⟩
  · intro i t task
    have bound := length ▸ (List.getElem?_eq_some_iff.1 task).1
    have here : parts[i]? = some parts[i] := List.getElem?_eq_getElem bound
    refine (each i t parts[i] task here).grows.congr ?_
    intro v e below
    refine ⟨fun mem => List.mem_flatten.2 ⟨_, List.getElem_mem bound, mem⟩, fun mem => ?_⟩
    -- Positions below different children are apart.
    obtain ⟨j, part, here', inside⟩ := part_of _ mem
    by_cases same : (j : Int) = i
    · obtain rfl := Int.ofNat.inj same
      rw [here, Option.some.injEq] at here'
      exact here' ▸ inside
    · exact absurd below ((Path.Apart.of_ne path same).not_below ((charted j part here').2 _ inside))
  · intro v e mem _
    obtain ⟨i, part, here, inside⟩ := part_of _ mem
    exact ⟨i, (charted i part here).1, (charted i part here).2 _ inside⟩
  · intro x mem
    obtain ⟨i, part, here, inside⟩ := part_of _ mem
    exact (List.prefix_append _ _).trans ((charted i part here).2 x inside)

/-- Children at their positions, side by side. -/
theorem charted_placed {path : Path} {ns : List Node} {task : Placed → Work}
    {part : Placed → List Breach} {next : List Value → Work}
    (each : ∀ n ∈ ns, ∀ path, Charted path (part (path, n)) (task (path, n)))
    (goesOn : ∀ values, (next values).Passes) :
    Charted path ((placed path ns).map part).flatten (.gatherAll ((placed path ns).map task) next) := by
  refine charted_gatherAll (by rw [List.length_map, List.length_map]) ?_ goesOn
  intro i t found task' part'
  rw [List.getElem?_map, getElem?_placed, Option.map_map, Option.map_eq_some_iff] at task' part'
  obtain ⟨n, here, rfl⟩ := task'
  obtain ⟨n', here', rfl⟩ := part'
  rw [here, Option.some.injEq] at here'
  subst here'
  exact each n (List.mem_of_getElem? here) _

/-- **A call** that is made at once. -/
theorem Charted.call {s : Script} {outcome : Except Failure Value} (prompt : s.Prompt outcome)
    (call : Call) {found : List Breach} {next : Except Failure Value → Work}
    (goesOn : Charted call.path found (next outcome)) :
    Charted call.path found (.act (·.start call) fun _ => s.run call next) := by
  have runs : (s.run call next).Grows positions (fun v e => (v, e) ∈ found) call.path := by
    induction prompt with
    | done =>
      exact .act (fun j => .inl (positions_finish j call outcome)) fun _ => goesOn.grows
    | consult _ ih => exact .act (fun j => .inl (positions_setState j _)) fun j => ih j.context
  exact ⟨.act (fun j => .inr (positions_start j call)) fun _ => runs, goesOn.below⟩

/-! ## Call trees -/

variable {r : Registry} {answers : Answers}

theorem charted_below {ns : List Node} (noWhen : ∀ c ∈ ns, c.isWhen = false) (scope : Scope)
    {path : Path} (each : ∀ c ∈ ns, ∀ path,
      Charted path (breaches r answers c scope.owner scope.data path) (resolve r c scope path)) :
    Charted path (breachesBelow r answers ns scope.owner scope.data path)
      (resolveBelow r ns scope path) := by
  rw [resolveBelow_eq, real_eq_placed noWhen, conditional_eq_nil noWhen, round, batch,
    any_placed path ns, breachesBelow]
  split
  · exact charted_fail path _
  · -- There is no second round, so what the first gives is passed on.
    exact charted_placed each fun values => .gather (.succeed _)

theorem charted_descend {name : String} {type : Descriptor} {path : Path}
    {children : Scope → Path → Work} {children' : String → Value → Path → List Breach} {v : Value}
    (below : ∀ data path, Charted path (children' type.name data path)
      (children (.of r type.name data) path)) :
    Charted path (Breach.descend type path children' v)
      (descend r name type path children v) := by
  unfold descend Breach.descend
  split
  · exact charted_succeed path _
  · split
    · refine charted_gatherAll (by rw [List.length_mapIdx, List.length_mapIdx]) ?_ fun _ => .succeed _
      intro i t part task here
      rw [List.getElem?_mapIdx, Option.map_eq_some_iff] at task here
      obtain ⟨item, found, rfl⟩ := task
      obtain ⟨item', found', rfl⟩ := here
      rw [found, Option.some.injEq] at found'
      subst found'
      split
      · exact charted_succeed _ _
      · exact below item _
    · exact (below v path).andThen fun _ => .succeed _

theorem charted_complete {name : String} {type : Descriptor} {hasChildren : Bool} {path : Path}
    {children : Scope → Path → Work} {children' : String → Value → Path → List Breach} {v : Value}
    (below : ∀ data path, Charted path (children' type.name data path)
      (children (.of r type.name data) path)) :
    Charted path (Breach.complete name type hasChildren path children' v)
      (complete r name type hasChildren path children v) := by
  unfold complete Breach.complete
  split
  · cases Check.nativeResult type hasChildren v with
    | error f => exact charted_fail path _
    | ok _ => exact charted_succeed path _
  · cases Check.customResult type hasChildren v with
    | error f => exact charted_fail path _
    | ok _ => exact charted_descend below

/-- **A resolution grows**, and its faults are the violations of the call tree. -/
theorem charted_resolve (prompt : r.Prompt answers) {n : Node} (unblocked : n.Unblocked) :
    ∀ (scope : Scope) (path : Path), scope.In r →
      Charted path (breaches r answers n scope.owner scope.data path) (resolve r n scope path) := by
  induction unblocked with
  | compose _ ih =>
    intro scope path within
    rw [resolve_compose, breaches_compose]
    exact charted_placed (fun c mem path => ih c mem scope path within) fun _ => .succeed _
  | when =>
    intro scope path _
    rw [resolve_when, breaches_when]
    exact charted_fail path _
  | @field name args children noCompose noWhen _ ih =>
    intro scope path within
    by_cases isWhen : name = Node.whenName
    · subst isWhen
      rw [resolve_when, breaches_when]
      exact charted_fail path _
    · rw [resolve_field r args children scope path noCompose isWhen,
        breaches_field _ _ _ _ _ _ _ noCompose isWhen, callField, Breach.callField, within.get?]
      cases found : r.field? scope.owner name with
      | none => exact charted_fail path _
      | some f =>
        simp only
        cases checkCall r name args f with
        | error e => exact charted_fail path _
        | ok _ =>
          have comes := prompt scope.owner name f found (args.getD []) scope.data
          refine .call comes (scope.call name args path) ?_
          cases answers scope.owner name (args.getD []) scope.data with
          | error failure => exact charted_succeed path _
          | ok v =>
            refine charted_complete fun data path => ?_
            exact charted_below noWhen (.of r f.type.name data) fun c mem path =>
              ih c mem _ path (Scope.in_of ..)

end Resolution

end CallTree
