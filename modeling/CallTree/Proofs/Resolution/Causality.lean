/-
# CallTree.Proofs.Resolution.Causality — resolution keeps to the unfolded tree.

A task follows a plan (`Follows`) if at every moment it has started only calls of the plan, each of them
after all that it comes after have ended; if its success is the result of the plan, with all calls of
the plan made and ended; and if its failure is a fault of the plan. Each way of putting tasks together
has its counterpart among plans, and the two keep step. So resolution follows the unfolded tree, along
what is told of its calls (`follows_resolve`).
-/
import Mathlib.Data.List.FinRange
import CallTree.Proofs.Resolution.Accounts
import CallTree.Proofs.Resolution.Unfolding

namespace CallTree

open Journal
open scoped List

/-- **Calls in causal order**: each call that starts is planned, and whatever it comes after has ended
before. -/
def Ordered (calls : List Planned) (history : List Event) : Prop :=
  ∀ before c rest, history = before ++ .started c :: rest →
    ∃ p ∈ calls, p.call = c ∧ p.after ⊆ endedIn before

/-- **A plan carried out**: its result is there, and its calls have been made and have ended. -/
structure Plan.Done {α : Type} (p : Plan α) (a : α) (history : List Event) : Prop where
  result : p.result = some a
  noFault : p.faults = []
  started : (startedIn history).Perm p.asked
  ended : p.asked ⊆ endedIn history

/-- How a plan is kept to at some moment. -/
structure Plan.Keeps (p : Plan Value) (standing : Standing Abort Value) (history : List Event) :
    Prop where
  ordered : Ordered p.calls history
  succeeded : ∀ v, standing = .ended (.ok v) → p.Done v history
  failed : ∀ e, standing = .ended (.error e) → e ∈ p.faults

/-! ## Order -/

theorem ordered_nil (calls : List Planned) : Ordered calls [] := by
  intro before c rest here
  cases before <;> cases here

theorem Ordered.mono {calls more : List Planned} {history : List Event} (h : Ordered calls history)
    (sub : calls ⊆ more) : Ordered more history := by
  intro before c rest here
  obtain ⟨p, mem, same, after⟩ := h before c rest here
  exact ⟨p, sub mem, same, after⟩

theorem endedIn_subset {history later : List Event} (sub : history ⊆ later) :
    endedIn history ⊆ endedIn later := by
  intro c mem
  obtain ⟨outcome, ended⟩ := mem_endedIn.1 mem
  exact mem_endedIn.2 ⟨outcome, sub ended⟩

/-- Calls that come after others are in order behind these. -/
theorem Ordered.append {first second : List Event} {calls later : List Planned} {earlier : List Call}
    (before : Ordered calls first) (after : Ordered later second) (ended : earlier ⊆ endedIn first) :
    Ordered (calls ++ later.map (Planned.behind earlier)) (first ++ second) := by
  intro early c rest here
  rcases List.append_eq_append_iff.1 here with ⟨mid, rfl, there⟩ | ⟨mid, rfl, there⟩
  · -- The call is in the second part.
    obtain ⟨p, mem, same, behind⟩ := after mid c rest there
    refine ⟨p.behind earlier, List.mem_append_right _ (List.mem_map_of_mem mem), same, ?_⟩
    rw [endedIn_append]
    exact List.append_subset.2 ⟨List.subset_append_of_subset_left _ ended,
      List.subset_append_of_subset_right _ behind⟩
  · cases mid with
    | nil =>
      -- It is the very first of the second part.
      obtain ⟨p, mem, same, behind⟩ := after [] c rest there.symm
      refine ⟨p.behind earlier, List.mem_append_right _ (List.mem_map_of_mem mem), same, ?_⟩
      rw [List.append_nil] at ended
      exact List.append_subset.2 ⟨ended, fun d mem => absurd (behind mem) List.not_mem_nil⟩
    | cons e mid =>
      rw [List.cons_append, List.cons.injEq] at there
      obtain ⟨rfl, -⟩ := there
      obtain ⟨p, mem, same, behind⟩ := before early c mid rfl
      exact ⟨p, List.mem_append_left _ mem, same, behind⟩

/-- Calls side by side are in the order of their own. -/
theorem Ordered.mixed {n : Nat} {calls : List Planned} {parts : Nat → List Event}
    {mixed : List Event} (others : ∀ i, n ≤ i → parts i = []) (mixes : Interleaves parts mixed)
    (each : ∀ i, i < n → Ordered calls (parts i)) : Ordered calls mixed := by
  intro before c rest here
  obtain ⟨i, earlier, later, part, sub⟩ := mixes.split here
  have bound : i < n := by
    by_contra beyond
    rw [others i (Nat.le_of_not_lt beyond)] at part
    cases earlier <;> cases part
  obtain ⟨p, mem, same, after⟩ := each i bound earlier c later part
  exact ⟨p, mem, same, List.Subset.trans after (endedIn_subset sub)⟩

namespace Plan

/-- A plan that is kept to while the first part of it is under way. -/
theorem Keeps.of_first {α : Type} {p : Plan α} {k : α → Plan Value}
    {standing : Standing Abort Value} {history : List Event} (ordered : Ordered p.calls history)
    (unfinished : ∀ v, standing ≠ .ended (.ok v))
    (failed : ∀ e, standing = .ended (.error e) → e ∈ p.faults) :
    (p.andThen k).Keeps standing history where
  ordered := ordered.mono (calls_subset_andThen p k)
  succeeded v ok := absurd ok (unfinished v)
  failed e same := faults_subset_andThen p k (failed e same)

/-- A plan that is kept to when the first part of it is carried out. -/
theorem Keeps.of_second {α : Type} {p : Plan α} {k : α → Plan Value} {a : α}
    {standing : Standing Abort Value} {first second : List Event} (ordered : Ordered p.calls first)
    (done : p.Done a first) (rest : (k a).Keeps standing second) :
    (p.andThen k).Keeps standing (first ++ second) := by
  have asked : (p.calls ++ (k a).calls.map (Planned.behind p.asked)).map Planned.call =
      p.asked ++ (k a).asked := by
    rw [List.map_append, List.map_map]
    rfl
  rw [andThen_of_result done.result]
  refine ⟨ordered.append rest.ordered done.ended, ?_, ?_⟩
  · intro v ok
    obtain ⟨result, noFault, started, ended⟩ := rest.succeeded v ok
    refine ⟨result, by rw [done.noFault, noFault, List.append_nil], ?_, ?_⟩
    · rw [Plan.asked, asked, startedIn_append]
      exact done.started.append started
    · rw [Plan.asked, asked, endedIn_append]
      exact List.append_subset.2 ⟨List.subset_append_of_subset_left _ done.ended,
        List.subset_append_of_subset_right _ ended⟩
  · intro e same
    exact List.mem_append_right _ (rest.failed e same)

end Plan

namespace Resolution

/-! ## Following a plan -/

/-- What is told of calls agrees with a history. -/
def Tells (told : Path → Option (Except Failure Value)) (history : List Event) : Prop :=
  ∀ c outcome, .ended c outcome ∈ history → told c.path = some outcome

/-- **A task follows a plan** if it keeps to it at every moment at which what is told of its calls is
true. -/
def Follows (told : Path → Option (Except Failure Value)) (t : Work) (p : Plan Value) : Prop :=
  ∀ standing updates, t.Stands standing updates → Tells told (written updates) →
    p.Keeps standing (written updates)

variable {told : Path → Option (Except Failure Value)}

theorem Tells.mono {history more : List Event} (h : Tells told more) (sub : history ⊆ more) :
    Tells told history :=
  fun c outcome ended => h c outcome (sub ended)

theorem follows_succeed (v : Value) : Follows told (.succeed v) (.succeed v) := by
  intro standing updates stands _
  cases stands with
  | begun _ => exact ⟨ordered_nil _, nofun, nofun⟩
  | done _ =>
    refine ⟨ordered_nil _, ?_, nofun⟩
    rintro _ ⟨⟩
    exact ⟨rfl, rfl, .nil, List.nil_subset _⟩

theorem follows_fail (e : Abort) : Follows told (.fail e) (.fault e) := by
  intro standing updates stands _
  cases stands with
  | begun _ => exact ⟨ordered_nil _, nofun, nofun⟩
  | done _ =>
    refine ⟨ordered_nil _, nofun, ?_⟩
    rintro _ ⟨⟩
    exact List.mem_singleton.2 rfl

/-- **One after the other.** -/
theorem Follows.andThen {t : Work} {p : Plan Value} {k : Value → Work} {k' : Value → Plan Value}
    (first : Follows told t p) (second : ∀ v, Follows told (k v) (k' v)) :
    Follows told (t.andThen k) (p.andThen k') := by
  intro standing updates stands tells
  rcases stands.andThen_inv with ⟨v, own, later, ends, rest, rfl⟩ | ⟨stood, own, awaits⟩
  · rw [written_append] at tells ⊢
    have before := first _ _ ends (tells.mono (List.subset_append_left _ _))
    have after := second v _ _ rest (tells.mono (List.subset_append_right _ _))
    exact .of_second before.ordered (before.succeeded v rfl) after
  · have before := first _ _ own tells
    refine .of_first before.ordered ?_ ?_
    · rintro v rfl
      cases awaits
    · rintro e rfl
      cases awaits with
      | failed _ _ fails => exact before.failed e fails

/-- Plans side by side that are carried out, with their calls mixed. -/
theorem done_each {plans : List (Plan Value)} {values : List Value}
    {parts : Nat → List (Journal → Journal)} {mixed : List (Journal → Journal)}
    (length : values.length = plans.length) (others : ∀ i, plans.length ≤ i → parts i = [])
    (mixes : Interleaves parts mixed)
    (each : ∀ (i : Nat) (p : Plan Value) (v : Value), plans[i]? = some p → values[i]? = some v →
      p.Done v (written (parts i))) :
    (Plan.each plans).Done values (written mixed) := by
  have events : Interleaves (fun i => written (parts i)) (written mixed) := mixes.flatMap _
  have one {i : Nat} (bound : i < plans.length) :
      plans[i].Done values[i] (written (parts i)) :=
    each i _ _ (List.getElem?_eq_getElem bound) (List.getElem?_eq_getElem (length ▸ bound))
  have asked : (Plan.each plans).asked = plans.flatMap Plan.asked := List.map_flatMap
  refine ⟨Plan.result_each ?_, ?_, ?_, ?_⟩
  · refine List.ext_getElem (by simp [length]) fun i hi hv => ?_
    rw [List.getElem_map, List.getElem_map]
    exact (one (by simpa using hi)).result
  · refine List.flatMap_eq_nil_iff.2 fun p mem => ?_
    obtain ⟨i, bound, rfl⟩ := List.getElem_of_mem mem
    exact (one bound).noFault
  · have numbered : (List.finRange plans.length).flatMap (fun i => plans[i].asked) =
        (Plan.each plans).asked := by
      rw [asked]
      conv => rhs; rw [← List.map_getElem_finRange plans, List.flatMap_map]
      rfl
    calc startedIn (written mixed)
      _ ~ (List.range plans.length).flatMap fun i => startedIn (written (parts i)) :=
        (events.filterMap Event.started?).perm fun i hi => by rw [others i hi]; rfl
      _ = (List.finRange plans.length).flatMap fun i : Fin plans.length =>
          startedIn (written (parts i)) := by
        rw [← List.map_coe_finRange_eq_range, List.flatMap_map]
      _ ~ (List.finRange plans.length).flatMap fun i => plans[i].asked :=
        .flatMap_left _ fun i _ => (one i.isLt).started
      _ = (Plan.each plans).asked := numbered
  · intro c mem
    rw [asked] at mem
    obtain ⟨p, hp, hc⟩ := List.mem_flatMap.1 mem
    obtain ⟨i, bound, rfl⟩ := List.getElem_of_mem hp
    exact endedIn_subset (fun e he => (events.mem_iff e).2 ⟨i, he⟩) ((one bound).ended hc)

/-- What is in order for one of several plans is in order for all of them together. -/
theorem ordered_each {plans : List (Plan Value)} {parts : Nat → List (Journal → Journal)}
    {mixed : List (Journal → Journal)} (others : ∀ i, plans.length ≤ i → parts i = [])
    (mixes : Interleaves parts mixed)
    (each : ∀ (i : Nat) (p : Plan Value), plans[i]? = some p →
      Ordered p.calls (written (parts i))) : Ordered (Plan.each plans).calls (written mixed) := by
  refine .mixed (fun i hi => by rw [others i hi]; rfl) (mixes.flatMap _) fun i bound => ?_
  have plan : plans[i]? = some plans[i] := List.getElem?_eq_getElem bound
  exact (each i _ plan).mono fun c mem => List.mem_flatMap.2 ⟨_, List.mem_of_getElem? plan, mem⟩

/-- **Side by side.** -/
theorem Follows.gatherAll {tasks : List Work} {plans : List (Plan Value)} {next : List Value → Work}
    {k : List Value → Plan Value} (follows : List.Forall₂ (Follows told) tasks plans)
    (goesOn : ∀ values, Follows told (next values) (k values)) :
    Follows told (.gatherAll tasks next) ((Plan.each plans).andThen k) := by
  have length := follows.length_eq
  have keeps {i : Nat} {t : Work} {p : Plan Value} (task : tasks[i]? = some t)
      (plan : plans[i]? = some p) : Follows told t p := by
    obtain ⟨bound, rfl⟩ := List.getElem?_eq_some_iff.1 task
    obtain ⟨bound', rfl⟩ := List.getElem?_eq_some_iff.1 plan
    exact (List.forall₂_iff_get.1 follows).2 i bound bound'
  have part {parts : Nat → List (Journal → Journal)} {mixed : List (Journal → Journal)}
      (mixes : Interleaves parts mixed) (i : Nat) : written (parts i) ⊆ written mixed :=
    written_subset fun u mem => (mixes.mem_iff u).2 ⟨i, mem⟩
  have task {i : Nat} {p : Plan Value} (plan : plans[i]? = some p) : ∃ t, tasks[i]? = some t :=
    ⟨_, List.getElem?_eq_getElem (length ▸ (List.getElem?_eq_some_iff.1 plan).1)⟩
  intro standing updates stands tells
  rcases stands.gatherAll_inv with ⟨stood, parts, each, others, mixes, awaits⟩ |
    ⟨values, parts, mixed, later, total, each, others, mixes, rest, rfl⟩
  · have kept {i : Nat} {p : Plan Value} (plan : plans[i]? = some p) :
        p.Keeps (stood i) (written (parts i)) := by
      obtain ⟨t, here⟩ := task plan
      exact keeps here plan _ _ (each i t here) (tells.mono (part mixes i))
    refine .of_first (ordered_each (length ▸ others) mixes fun i p plan => (kept plan).ordered) ?_ ?_
    · rintro v rfl
      cases awaits
    · rintro e rfl
      cases awaits with
      | failed i bound fails =>
        obtain ⟨p, plan⟩ : ∃ p, plans[i]? = some p :=
          ⟨_, List.getElem?_eq_getElem (length ▸ bound)⟩
        exact List.mem_flatMap.2 ⟨_, List.mem_of_getElem? plan, (kept plan).failed e fails⟩
  · -- All children have succeeded, so their plans are carried out before what comes next begins.
    rw [written_append] at tells ⊢
    have tellsMixed := tells.mono (List.subset_append_left _ _)
    have kept {i : Nat} {p : Plan Value} {v : Value} (plan : plans[i]? = some p)
        (value : values[i]? = some v) : p.Keeps (.ended (.ok v)) (written (parts i)) := by
      obtain ⟨t, here⟩ := task plan
      exact keeps here plan _ _ (each i t v here value) (tellsMixed.mono (part mixes i))
    have after := goesOn values _ _ rest (tells.mono (List.subset_append_right _ _))
    refine .of_second (ordered_each (length ▸ others) mixes fun i p plan => ?_) ?_ after
    · have bound : i < values.length := by
        have bound := (List.getElem?_eq_some_iff.1 plan).1
        omega
      exact (kept plan (List.getElem?_eq_getElem bound)).ordered
    · refine done_each (total.trans length) (length ▸ others) mixes fun i p v plan value => ?_
      exact (kept plan value).succeeded v rfl

/-- A call is in order by itself. -/
theorem ordered_call (call : Call) {later : List Event} (none : startedIn later = []) :
    Ordered (Plan.call call).calls (.started call :: later) := by
  intro before c rest here
  cases before with
  | nil =>
    cases here
    exact ⟨⟨call, []⟩, List.mem_singleton.2 rfl, rfl, List.nil_subset _⟩
  | cons e before =>
    rw [List.cons_append, List.cons.injEq] at here
    have mem : c ∈ startedIn later :=
      mem_startedIn.2 (here.2 ▸ List.mem_append_right _ List.mem_cons_self)
    rw [none] at mem
    cases mem

/-- **A call**, and what comes of it. -/
theorem follows_call {s : Script} {call : Call} {next : Except Failure Value → Work}
    {p : Plan Value} (goesOn : ∀ outcome, told call.path = some outcome → Follows told (next outcome) p) :
    Follows told (.act (·.start call) fun _ => s.run call next)
      ((Plan.call call).andThen fun () => p) := by
  intro standing updates stands tells
  rcases Script.call_stands_inv stands with
    ⟨none, rfl⟩ | ⟨started, waits⟩ | ⟨outcome, later, rest, wrote⟩
  · rw [none]
    exact .of_first (ordered_nil _) nofun nofun
  · rw [started]
    have unended (outcome : Except Abort Value) : standing ≠ .ended outcome := by
      rintro rfl
      rcases waits with waits | ⟨stuck, -⟩
      · cases waits
      · cases stuck
    exact .of_first (ordered_call call rfl) (fun v => unended _) fun e same => absurd same (unended _)
  · -- The call has ended, so the plan goes on with what is told of it, which is its outcome.
    rw [wrote] at tells ⊢
    have outcomeTold := tells call outcome (List.mem_cons_of_mem _ List.mem_cons_self)
    have after := goesOn outcome outcomeTold _ _ rest
      (tells.mono fun e mem => List.mem_cons_of_mem _ (List.mem_cons_of_mem _ mem))
    have done : (Plan.call call).Done () [.started call, .ended call outcome] :=
      ⟨rfl, rfl, .refl _, List.Subset.refl _⟩
    exact .of_second (ordered_call call rfl) done after

/-! ## Call trees -/

variable {r : Registry}

theorem follows_round {scope : Scope} {cs : List Placed} {output : Table Value}
    {next : Table Value → Work} {k : Table Value → Plan Value}
    (children : ∀ c ∈ cs, Follows told (resolveAt r scope c)
      (Unfolding.unfoldAt r told scope.owner scope.data c))
    (goesOn : ∀ output, Follows told (next output) (k output)) :
    Follows told (round r scope cs output next)
      ((Unfolding.round (cs.any fun c => c.2.isCompose)
        (cs.map (Unfolding.unfoldAt r told scope.owner scope.data)) output).andThen k) := by
  unfold round batch Unfolding.round
  split
  · exact follows_fail _
  · rw [Plan.andThen_succeed]
    exact .gatherAll (forall₂_map children) fun values => goesOn (mergeAll output values)

theorem follows_resolveBelow {ns : List Node} {scope : Scope} {path : Path}
    (children : ∀ c ∈ ns, ∀ path, Follows told (resolve r c scope path)
      (Unfolding.unfold r told c scope.owner scope.data path))
    (inBlocks : ∀ b ∈ ns, ∀ c ∈ b.children, ∀ path, Follows told (resolve r c scope path)
      (Unfolding.unfold r told c scope.owner scope.data path)) :
    Follows told (resolveBelow r ns scope path)
      (Unfolding.unfoldBelow r told ns scope.owner scope.data path) := by
  rw [resolveBelow_eq]
  apply follows_round (fun c mem => children c.2 (mem_of_real mem) c.1)
  intro output
  cases holds : holding output (conditional path ns) with
  | error f => exact follows_fail _
  | ok bs =>
    refine follows_round ?_ fun output => follows_succeed _
    intro c mem
    obtain ⟨b, hb, inside⟩ := mem_of_inside holds mem
    exact inBlocks b hb c.2 inside c.1

theorem follows_descend {name : String} {type : Descriptor} {path : Path}
    {children : Scope → Path → Work} {children' : String → Value → Path → Plan Value} {v : Value}
    (below : ∀ data path, Follows told (children (.of r type.name data) path)
      (children' type.name data path)) :
    Follows told (descend r name type path children v)
      ((Unfolding.descend type path children' v).andThen fun w => .succeed (.single name w)) := by
  unfold descend Unfolding.descend
  by_cases null : v.isNull
  · rw [if_pos null, if_pos null]
    exact follows_succeed _
  · rw [if_neg null, if_neg null]
    by_cases array : type.isArray
    · rw [if_pos array, if_pos array, Plan.andThen_succeed]
      simp only [List.mapIdx_eq_zipIdx_map]
      refine .gatherAll (forall₂_map ?_) fun values => follows_succeed _
      intro item _
      by_cases none : item.1.isNull
      · rw [if_pos none, if_pos none]
        exact follows_succeed _
      · rw [if_neg none, if_neg none]
        exact below _ _
    · rw [if_neg array, if_neg array]
      exact .andThen (below v path) fun w => follows_succeed _

theorem follows_complete {name : String} {type : Descriptor} {hasChildren : Bool} {path : Path}
    {children : Scope → Path → Work} {children' : String → Value → Path → Plan Value} {v : Value}
    (below : ∀ data path, Follows told (children (.of r type.name data) path)
      (children' type.name data path)) :
    Follows told (complete r name type hasChildren path children v)
      (Unfolding.complete name type hasChildren path children' v) := by
  unfold complete Unfolding.complete
  by_cases native : type.isNative
  · rw [if_pos native, if_pos native]
    cases Check.nativeResult type hasChildren v with
    | error f => exact follows_fail _
    | ok _ => exact follows_succeed _
  · rw [if_neg native, if_neg native]
    cases Check.customResult type hasChildren v with
    | error f => exact follows_fail _
    | ok _ => exact follows_descend below

/-- **Resolution follows the unfolded tree**, along what is told of its calls. -/
theorem follows_resolve (r : Registry) (told : Path → Option (Except Failure Value)) (n : Node) :
    ∀ (scope : Scope) (path : Path), scope.In r → Follows told (resolve r n scope path)
      (Unfolding.unfold r told n scope.owner scope.data path) := by
  induction n using Node.induct with
  | compose args children ih =>
    intro scope path within
    rw [resolve_compose, Unfolding.unfold_compose]
    refine .gatherAll (forall₂_map ?_) fun values => follows_succeed _
    intro c mem
    exact ih c.2 (mem_of_placed mem) scope c.1 within
  | when args children =>
    intro scope path _
    rw [resolve_when, Unfolding.unfold_when]
    exact follows_fail _
  | field name args children noCompose noWhen ih ihBlocks =>
    intro scope path within
    rw [resolve_field r args children scope path noCompose noWhen,
      Unfolding.unfold_field _ _ _ _ _ _ _ noCompose noWhen, callField, Unfolding.callField,
      within.get?]
    cases r.field? scope.owner name with
    | none => exact follows_fail _
    | some f =>
      simp only
      cases checkCall r name args f with
      | error e => exact follows_fail _
      | ok _ =>
        refine follows_call fun outcome known => ?_
        have here : told path = some outcome := known
        rw [here]
        cases outcome with
        | error failure => exact follows_succeed _
        | ok v =>
          refine follows_complete fun data path => follows_resolveBelow ?_ ?_
          · exact fun c mem path => ih c mem _ path (Scope.in_of ..)
          · exact fun b mem c inside path => ihBlocks b mem c inside _ path (Scope.in_of ..)

end Resolution

end CallTree
