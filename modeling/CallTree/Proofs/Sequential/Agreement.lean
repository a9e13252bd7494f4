/-
# CallTree.Proofs.Sequential.Agreement — what resolution can come to is what evaluation gives.

A task meets a verdict if it can come to nothing else (`Meets`): to a success only with the value of
the verdict, and with its history in some order; to a fault only if the verdict tells of that fault
among others. Each way of putting tasks together has its counterpart among verdicts, and the two keep
step (`Meets.gatherAll`, `Meets.andThen`, `Meets.call`). So, call by call, resolution meets evaluation
(`meets_resolve`). No schedule is mentioned any more.
-/
import CallTree.Proofs.Resolution.Inherited
import CallTree.Proofs.Sequential.Evaluation

namespace CallTree.Sequential

open Resolution

/-- A verdict that tells of all faults. -/
abbrev Survey (α : Type) := Verdict (List Abort) α

/-- What a verdict allows as an outcome, with what is written for it. -/
def Allows (v : Survey Value) (log : List Journal.Event) : Except Abort Value → Prop
  | .ok a => ∃ own, v = .ok (a, own) ∧ log.Perm own
  | .error e => ∃ es, v = .error es ∧ e ∈ es

/-- **A task meets a verdict** if it comes to nothing that the verdict does not allow. -/
def Meets (t : Work) (v : Survey Value) : Prop :=
  ∀ outcome updates, t.Ends outcome updates → Allows v (Journal.written updates) outcome

theorem meets_succeed (a : Value) : Meets (.succeed a) (.succeed a) := by
  intro outcome updates ends
  cases ends with
  | succeed a => exact ⟨[], rfl, .nil⟩

theorem meets_fail (e : Abort) : Meets (.fail e) (blame .all e) := by
  intro outcome updates ends
  cases ends with
  | fail e updates => exact ⟨[e], rfl, List.mem_singleton.2 rfl⟩

/-- What a verdict allows when it goes on. -/
theorem Allows.andThen {α : Type} {v : Survey α} {k : α → Survey Value} {a : α}
    {own first second : List Journal.Event} {outcome : Except Abort Value} (found : v = .ok (a, own))
    (before : first.Perm own) (after : Allows (k a) second outcome) :
    Allows (v.andThen k) (first ++ second) outcome := by
  subst found
  cases outcome with
  | ok b =>
    obtain ⟨more, goesOn, same⟩ := after
    exact ⟨own ++ more, by rw [Verdict.andThen, goesOn], before.append same⟩
  | error e =>
    obtain ⟨es, goesOn, mem⟩ := after
    exact ⟨es, by rw [Verdict.andThen, goesOn], mem⟩

/-- **One after the other.** -/
theorem Meets.andThen {t : Work} {v : Survey Value} {k : Value → Work} {k' : Value → Survey Value}
    (first : Meets t v) (second : ∀ a, Meets (k a) (k' a)) :
    Meets (t.andThen k) (v.andThen k') := by
  intro outcome updates ends
  rcases ends.andThen_inv with ⟨a, before, after, comes, goesOn, rfl⟩ | ⟨e, part, rfl, fails⟩
  · obtain ⟨own, found, same⟩ := first _ _ comes
    rw [Journal.written_append]
    exact .andThen found same (second a _ _ goesOn)
  · obtain ⟨es, found, mem⟩ := first _ _ fails
    exact ⟨es, by rw [found]; rfl, mem⟩

/-! ## Side by side -/

/-- When all calls side by side have run, the verdict on them has their results. -/
theorem each_of_ran {tasks : List Work} {verdicts : List (Survey Value)}
    {runs : List (Value × List (Journal → Journal))} (meets : List.Forall₂ Meets tasks verdicts)
    (ran : Task.Ran tasks runs) :
    ∃ own, each .all verdicts = .ok (runs.map (·.1), own) ∧
      (Journal.written (runs.flatMap (·.2))).Perm own := by
  induction ran generalizing verdicts with
  | nil =>
    cases meets
    exact ⟨[], rfl, .nil⟩
  | @cons t run tasks runs ends _ ih =>
    cases meets with
    | cons first others =>
      obtain ⟨own, rfl, same⟩ := first _ _ ends
      obtain ⟨more, found, same'⟩ := ih others
      refine ⟨own ++ more, ?_, ?_⟩
      · rw [each, found]
        rfl
      · rw [List.flatMap_cons, Journal.written_append]
        exact same.append same'

/-- When a call among those side by side fails, the verdict on them tells of its fault. -/
theorem each_of_failed {tasks : List Work} {verdicts : List (Survey Value)} {t : Work} {e : Abort}
    {part : List (Journal → Journal)} (meets : List.Forall₂ Meets tasks verdicts) (mem : t ∈ tasks)
    (fails : t.Ends (.error e) part) : ∃ es, each .all verdicts = .error es ∧ e ∈ es := by
  induction meets with
  | nil => cases mem
  | @cons t' v tasks verdicts first _ ih =>
    rcases List.mem_cons.1 mem with rfl | later
    · obtain ⟨es, rfl, here⟩ := first _ _ fails
      rw [each]
      split
      · exact ⟨es, rfl, here⟩
      · exact ⟨_, rfl, List.mem_append_left _ here⟩
    · obtain ⟨es, found, here⟩ := ih later
      -- The first call may fail besides: then both faults are told.
      rcases v with es' | ⟨a, log⟩
      · rw [each, found]
        exact ⟨_, rfl, List.mem_append_right _ here⟩
      · rw [each, found]
        exact ⟨es, rfl, here⟩

/-- **Side by side.** -/
theorem Meets.gatherAll {tasks : List Work} {verdicts : List (Survey Value)}
    {next : List Value → Work} {k : List Value → Survey Value}
    (meets : List.Forall₂ Meets tasks verdicts) (goesOn : ∀ values, Meets (next values) (k values)) :
    Meets (.gatherAll tasks next) ((each .all verdicts).andThen k) := by
  intro outcome updates ends
  rcases ends.gatherAll_inv with
    ⟨runs, mixed, later, ran, mixes, rest, rfl⟩ | ⟨t, mem, e, part, rfl, fails⟩
  · obtain ⟨own, found, same⟩ := each_of_ran meets ran
    rw [Journal.written_append]
    exact .andThen found ((Journal.written_perm mixes).trans same) (goesOn _ _ _ rest)
  · obtain ⟨es, found, here⟩ := each_of_failed meets mem fails
    exact ⟨es, by rw [found]; rfl, here⟩

/-! ## Calls -/

/-- **A call that succeeds** is logged, and meets what it goes on as. -/
theorem Meets.call {s : Script} {v : Value} (h : s.ComesTo (.ok v)) (call : Call)
    {next : Except Failure Value → Work} {w : Survey Value} (goesOn : Meets (next (.ok v)) w) :
    Meets (.act (·.start call) fun _ => s.run call next)
      (Verdict.andThen (.ok ((), record call (.ok v))) fun () => w) := by
  intro outcome updates ends
  obtain ⟨result, later, ends', same, only⟩ := Script.call_inv ends
  rw [only _ h] at ends' same
  rw [same]
  exact .andThen rfl (.refl _) (goesOn _ _ ends')

/-- **A call that fails** is logged, and its result is null. -/
theorem meets_failed {s : Script} {failure : Failure} (h : s.ComesTo (.error failure)) (call : Call)
    {next : Except Failure Value → Work} {a : Value}
    (goesOn : next (.error failure) = .succeed a) :
    Meets (.act (·.start call) fun _ => s.run call next) (.ok (a, record call (.error failure))) := by
  intro outcome updates ends
  obtain ⟨result, later, ends', same, only⟩ := Script.call_inv ends
  rw [only _ h] at ends' same
  rw [goesOn] at ends'
  cases ends' with
  | succeed a => exact ⟨_, rfl, by rw [same]; exact .refl _⟩

/-! ## Call trees -/

variable {r : Registry} {answers : Answers}

theorem meets_round {scope : Scope} {cs : List Placed} {output : Table Value}
    {next : Table Value → Work} {k : Table Value → Survey Value}
    (children : ∀ c ∈ cs, Meets (resolveAt r scope c)
      (evaluateAt .all r answers scope.owner scope.data c))
    (goesOn : ∀ output, Meets (next output) (k output)) :
    Meets (Resolution.round r scope cs output next)
      ((round .all (cs.any fun c => c.2.isCompose)
        (cs.map (evaluateAt .all r answers scope.owner scope.data)) output).andThen k) := by
  unfold Resolution.round batch round
  split
  · exact meets_fail _
  · rw [Verdict.andThen_succeed]
    exact .gatherAll (forall₂_map children) fun values => goesOn (mergeAll output values)

theorem meets_resolveBelow {ns : List Node} {scope : Scope} {path : Path}
    (children : ∀ c ∈ ns, ∀ path, Meets (resolve r c scope path)
      (evaluate .all r answers c scope.owner scope.data path))
    (inBlocks : ∀ b ∈ ns, ∀ c ∈ b.children, ∀ path, Meets (resolve r c scope path)
      (evaluate .all r answers c scope.owner scope.data path)) :
    Meets (resolveBelow r ns scope path)
      (evaluateBelow .all r answers ns scope.owner scope.data path) := by
  rw [resolveBelow_eq]
  apply meets_round (fun c mem => children c.2 (mem_of_real mem) c.1)
  intro output
  cases holds : holding output (conditional path ns) with
  | error f => exact meets_fail _
  | ok bs =>
    refine meets_round ?_ fun output => meets_succeed _
    intro c mem
    obtain ⟨b, hb, inside⟩ := mem_of_inside holds mem
    exact inBlocks b hb c.2 inside c.1

theorem meets_descend {name : String} {type : Descriptor} {path : Path}
    {children : Scope → Path → Work} {children' : String → Value → Path → Survey Value} {v : Value}
    (below : ∀ data path, Meets (children (.of r type.name data) path)
      (children' type.name data path)) :
    Meets (Resolution.descend r name type path children v)
      ((descend .all type path children' v).andThen fun w => .succeed (.single name w)) := by
  unfold Resolution.descend descend
  by_cases null : v.isNull
  · rw [if_pos null, if_pos null]
    exact meets_succeed _
  · rw [if_neg null, if_neg null]
    by_cases array : type.isArray
    · rw [if_pos array, if_pos array, Verdict.andThen_succeed]
      simp only [List.mapIdx_eq_zipIdx_map]
      refine .gatherAll (forall₂_map ?_) fun values => meets_succeed _
      intro item _
      by_cases none : item.1.isNull
      · rw [if_pos none, if_pos none]
        exact meets_succeed _
      · rw [if_neg none, if_neg none]
        exact below _ _
    · rw [if_neg array, if_neg array]
      exact .andThen (below v path) fun w => meets_succeed _

theorem meets_complete {name : String} {type : Descriptor} {hasChildren : Bool} {path : Path}
    {children : Scope → Path → Work} {children' : String → Value → Path → Survey Value} {v : Value}
    (below : ∀ data path, Meets (children (.of r type.name data) path)
      (children' type.name data path)) :
    Meets (Resolution.complete r name type hasChildren path children v)
      (complete .all name type hasChildren path children' v) := by
  unfold Resolution.complete complete
  by_cases native : type.isNative
  · rw [if_pos native, if_pos native]
    cases Check.nativeResult type hasChildren v with
    | error f => exact meets_fail _
    | ok _ => exact meets_succeed _
  · rw [if_neg native, if_neg native]
    cases Check.customResult type hasChildren v with
    | error f => exact meets_fail _
    | ok _ => exact meets_descend below

/-- **Resolution meets evaluation**, if the resolvers give their answers. -/
theorem meets_resolve (gives : r.Gives answers) (n : Node) :
    ∀ (scope : Scope) (path : Path), scope.In r → Meets (resolve r n scope path)
      (evaluate .all r answers n scope.owner scope.data path) := by
  induction n using Node.induct with
  | compose args children ih =>
    intro scope path within
    rw [resolve_compose, evaluate_compose]
    refine .gatherAll (forall₂_map ?_) fun values => meets_succeed _
    intro c mem
    exact ih c.2 (mem_of_placed mem) scope c.1 within
  | when args children =>
    intro scope path _
    rw [resolve_when, evaluate_when]
    exact meets_fail _
  | field name args children noCompose noWhen ih ihBlocks =>
    intro scope path within
    rw [resolve_field r args children scope path noCompose noWhen,
      evaluate_field _ _ _ _ _ _ _ _ noCompose noWhen, Resolution.callField, callField, within.get?]
    cases found : r.field? scope.owner name with
    | none => exact meets_fail _
    | some f =>
      simp only
      cases checkCall r name args f with
      | error e => exact meets_fail _
      | ok _ =>
        simp only
        have comes := gives scope.owner name f found (args.getD []) scope.data
        cases result : answers scope.owner name (args.getD []) scope.data with
        | error failure =>
          rw [result] at comes
          exact meets_failed comes (scope.call name args path) rfl
        | ok v =>
          rw [result] at comes
          refine .call comes _ (meets_complete ?_)
          intro data path
          refine meets_resolveBelow ?_ ?_
          · intro c mem path
            exact ih c mem _ path (Scope.in_of ..)
          · intro b mem c inside path
            exact ihBlocks b mem c inside _ path (Scope.in_of ..)

end CallTree.Sequential
