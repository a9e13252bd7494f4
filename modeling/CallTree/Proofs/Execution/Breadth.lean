/-
# CallTree.Proofs.Execution.Breadth — prompt resolvers are called level by level.

Where no resolver lets others run before it has its answer, what is due is done first come, first served.
The calls of a request then start level by level, and on each level in the order of the request. And if a
request fails, it fails with the soonest of all violations of its call tree (`Sequential.Soonest`): a
violation that is deeper is overtaken by one that is not, wherever the two stand in the request
(`Execution.breadth_first`). A time limit may put its own end to a request, and changes nothing else.
-/
import CallTree.Proofs.Execution.Locality
import CallTree.Proofs.Execution.Termination
import CallTree.Proofs.Resolution.Growth
import CallTree.Proofs.Task.Breadth

namespace CallTree

open Journal CallTree.Sequential

/-- **The violations of a request's call tree**, each at its position. -/
abbrev Node.breaches (r : Registry) (answers : Answers) (n : Node) : List Breach :=
  Sequential.breaches r answers n Registry.rootName .null []

/-- **The soonest of several violations**: all others are at longer positions, or at positions as long
that come after it. -/
structure Sequential.Soonest (found : List Breach) (v : Path) (e : Abort) : Prop where
  among : (v, e) ∈ found
  soonest : ∀ x ∈ found, x = (v, e) ∨ v.Sooner x.1

theorem Sequential.soonest_of_least {found : List Breach} {v : Path} {e : Abort}
    (h : Faults.Least (fun v e => (v, e) ∈ found) [] v e) : Soonest found v e := by
  refine ⟨h.fault, ?_⟩
  rintro ⟨u, e'⟩ mem
  rcases h.least u e' mem List.nil_prefix with ⟨rfl, rfl⟩ | sooner
  · exact .inl rfl
  · exact .inr sooner

namespace Execution

variable {r : Registry} {answers : Answers} {q : Request} {n : Node}

/-- The resolution of a request grows from its root. -/
theorem grows_resolution (prompt : r.Prompt answers) (unblocked : n.Unblocked) :
    (Request.resolution r n).Grows Resolution.positions
      (fun v e => (v, e) ∈ n.breaches r answers) [] :=
  (Resolution.charted_resolve prompt unblocked _ [] (Scope.in_of ..)).grows

/-- The lane of a request that reads, without its time limit. -/
theorem begun_unlimited (asks : q.source.read = .ok n) :
    q.unlimited.begun r = Lane.begun (Request.resolution r n) q.journal := by
  rw [Request.begun, task_unlimited asks]
  rfl

/-- **Calls start level by level.** -/
theorem Moment.sooner {j : Journal} (h : Moment r q j) (asks : q.source.read = .ok n)
    (unblocked : n.Unblocked) (prompt : r.Prompt answers) :
    (j.calls.map Call.path).Pairwise Path.Sooner := by
  have once := (h.seen asks).once
  have grows := grows_resolution prompt unblocked
  have sorted : (Resolution.positions j).Pairwise fun p q => p = q ∨ p.Sooner q := by
    rcases h.unlimited with ⟨y, run, rfl⟩ | ⟨n', asks', rfl⟩
    · rw [begun_unlimited asks] at run
      exact (run.level grows rfl).sorted
    · cases asks.symm.trans asks'
      obtain ⟨⟨marks, trace, sorted⟩, -⟩ := grows.early q.journal
      rw [trace]
      exact sorted
  refine (sorted.and once).imp ?_
  rintro p q ⟨same | sooner, other⟩
  · exact absurd same other
  · exact sooner

/-- **A request without a time limit succeeds, or fails with the soonest violation.** -/
theorem soonest_unlimited (asks : q.source.read = .ok n) (unblocked : n.Unblocked)
    (prompt : r.Prompt answers) : ∃ response, alone r q.unlimited = some response ∧
      ((n.breaches r answers = [] ∧ ∃ data errors, response.envelope = .success data errors) ∨
        ∃ v e, Soonest (n.breaches r answers) v e ∧
          response.envelope = .failure Envelope.processingTag e.message) := by
  obtain ⟨y, run, finished, same, -⟩ := exists_run r q.unlimited
  have patient : q.unlimited.Patient := .inl rfl
  have answered := run.answered (Request.lively_task prompt.gives.lively patient) finished
  obtain ⟨a, answer⟩ := Option.isSome_iff_exists.1 answered
  refine ⟨Request.response a.outcome a.state, by rw [same, Request.respond, answer], ?_⟩
  rw [begun_unlimited asks] at run
  rcases run.outcome_of_grows (grows_resolution prompt unblocked) rfl answer with
    ⟨v, success, free⟩ | ⟨e, v, failure, least⟩
  · left
    rw [success]
    refine ⟨List.eq_nil_iff_forall_not_mem.2 fun x mem => ?_, _, _, rfl⟩
    exact free x.1 x.2 mem List.nil_prefix
  · rw [failure]
    exact .inr ⟨v, e, soonest_of_least least, rfl⟩

/-- What a resolution has come to early is a success without violations, or the soonest violation. -/
theorem soonest_of_early (unblocked : n.Unblocked) (prompt : r.Prompt answers)
    {outcome : Except Abort Value} {j : Journal}
    (early : ((Request.resolution r n).early q.journal).1 = some outcome) :
    (n.breaches r answers = [] ∧
        ∃ data errors, (Request.response outcome j).envelope = .success data errors) ∨
      ∃ v e, Soonest (n.breaches r answers) v e ∧
        (Request.response outcome j).envelope = .failure Envelope.processingTag e.message := by
  obtain ⟨-, succeeded, failed⟩ := (grows_resolution prompt unblocked).early q.journal
  cases outcome with
  | ok a =>
    refine .inl ⟨List.eq_nil_iff_forall_not_mem.2 fun x mem => ?_, _, _, rfl⟩
    exact succeeded a early x.1 x.2 mem List.nil_prefix
  | error e =>
    obtain ⟨v, least⟩ := failed e early
    exact .inr ⟨v, e, soonest_of_least least, rfl⟩

/-- **Breadth first.** Let no resolver let others run before it has its answer, and let a call tree have
no conditional blocks. At every moment of a request, its calls have started level by level, and on each
level in the order of the request. The request is answered: unless its time limit puts its own end to it,
it succeeds if the call tree has no violations, and else fails with the soonest of them. -/
theorem breadth_first (asks : q.source.read = .ok n) (unblocked : n.Unblocked)
    (prompt : r.Prompt answers) :
    (∀ j, Moment r q j → (j.calls.map Call.path).Pairwise Path.Sooner) ∧
    (n.breaches r answers).map Prod.snd = violations r answers n ∧
    ∃ response, alone r q = some response ∧
      (response.calls.map Call.path).Pairwise Path.Sooner ∧
      ((∃ e, Request.Cut q.limit e ∧
          response.envelope = .failure Envelope.processingTag e.message) ∨
        (n.breaches r answers = [] ∧ ∃ data errors, response.envelope = .success data errors) ∨
        ∃ v e, Soonest (n.breaches r answers) v e ∧
          response.envelope = .failure Envelope.processingTag e.message) := by
  have inOrder (j : Journal) (moment : Moment r q j) :
      (j.calls.map Call.path).Pairwise Path.Sooner := moment.sooner asks unblocked prompt
  refine ⟨inOrder, (violations_eq unblocked).symm, ?_⟩
  obtain ⟨plain, plainly, outcome⟩ := soonest_unlimited asks unblocked prompt
  obtain ⟨response, answer, either⟩ := alone_or_cut plainly
  obtain ⟨j, moment, calls⟩ := moment_of_response answer
  refine ⟨response, answer, calls ▸ inOrder j moment, ?_⟩
  rcases either with cut | same | ⟨n', outcome, asks', early, rfl⟩
  · exact .inl cut
  · rw [← same] at outcome
    exact .inr outcome
  · cases asks.symm.trans asks'
    exact .inr (soonest_of_early unblocked prompt early)

/-! ## Three unknown names -/

/-- A call tree with three unknown names, of which the last in the request is the least deep. -/
def strayNode : Node :=
  .mk "viewer" none [.mk "friends" none [.leaf "town"], .leaf "name", .leaf "street"]

theorem unblocked_stray : strayNode.Unblocked := by
  have leaf {name : String} (noCompose : name ≠ Node.composeName) : (Node.leaf name).Unblocked :=
    .field noCompose nofun nofun
  have town : (Node.leaf "town").Unblocked := leaf (by decide)
  have friends : (Node.mk "friends" none [.leaf "town"]).Unblocked :=
    .field (by decide) (by decide) (by simp [town])
  have both : (Node.leaf "name").Unblocked ∧ (Node.leaf "street").Unblocked :=
    ⟨leaf (by decide), leaf (by decide)⟩
  exact .field (by decide) (by decide) (by simp [friends, both])

/-- Two friends of the viewer have no town, and the viewer has no street. -/
theorem breaches_stray : strayNode.breaches (people circle fun _ => 0) circle =
    [([0, 0, 0], .shape (.unknownName "town")), ([0, 1, 0], .shape (.unknownName "town")),
      ([2], .shape (.unknownName "street"))] := by
  have unknown (name : String) (noCompose : name ≠ Node.composeName) (noWhen : name ≠ Node.whenName)
      (unknown : (people circle fun _ => 0).field? "Person" name = none) (data : Value) (path : Path) :
      breaches (people circle fun _ => 0) circle (.leaf name) "Person" data path =
        [(path, .shape (.unknownName name))] := by
    rw [Node.leaf, breaches_field _ _ _ _ _ _ _ noCompose noWhen, Breach.callField, unknown]
  have town := unknown "town" (by decide) (by decide) rfl
  have street := unknown "street" (by decide) (by decide) rfl
  have name (path : Path) : breaches (people circle fun _ => 0) circle (.leaf "name") "Person"
      (person "Sam" [person "Ann" [person "Cid" []], person "Bob" []]) path = [] := by
    rw [Node.leaf, breaches_field _ _ _ _ _ _ _ (by decide) (by decide)]
    rfl
  have friends (path : Path) : breaches (people circle fun _ => 0) circle
      (.mk "friends" none [.leaf "town"]) "Person"
      (person "Sam" [person "Ann" [person "Cid" []], person "Bob" []]) path =
        [(path ++ [0] ++ [0], .shape (.unknownName "town")),
          (path ++ [1] ++ [0], .shape (.unknownName "town"))] := by
    rw [breaches_field _ _ _ _ _ _ _ (by decide) (by decide)]
    show (breaches _ circle (.leaf "town") "Person" (person "Ann" [person "Cid" []])
        (path ++ [0] ++ [0]) ++ []) ++ ((breaches _ circle (.leaf "town") "Person" (person "Bob" [])
        (path ++ [1] ++ [0]) ++ []) ++ []) = _
    rw [town, town]
    rfl
  rw [strayNode, Node.breaches, breaches_field _ _ _ _ _ _ _ (by decide) (by decide)]
  show breaches _ circle (.mk "friends" none [.leaf "town"]) "Person" _ [0] ++
    (breaches _ circle (.leaf "name") "Person" _ [1] ++
      (breaches _ circle (.leaf "street") "Person" _ [2] ++ [])) = _
  rw [friends, name, street]
  rfl

/-- The street is told of, since it is not as deep as the towns. -/
theorem breadth_first_stray : ∃ calls,
    alone (people circle fun _ => 0) { source := .call strayNode } =
      some ⟨.failure Envelope.processingTag (Abort.shape (.unknownName "street")).message, calls⟩ ∧
    (calls.map Call.path).Pairwise Path.Sooner := by
  have prompt : (people circle fun _ => 0).Prompt circle := circle.prompt_registry _ _
  obtain ⟨-, -, ⟨envelope, calls⟩, answer, inOrder, outcome⟩ :=
    breadth_first (q := { source := .call strayNode }) (n := strayNode) rfl unblocked_stray prompt
  refine ⟨calls, ?_, inOrder⟩
  rw [answer]
  rcases outcome with ⟨e, cut, -⟩ | ⟨none, -⟩ | ⟨v, e, ⟨among, soonest⟩, same⟩
  · exact absurd rfl cut.1
  · rw [breaches_stray] at none
    cases none
  · rw [breaches_stray] at among soonest
    -- What is deeper than the street is not the soonest.
    have shallow : v.length ≤ 1 := by
      rcases soonest ([2], .shape (.unknownName "street")) (by simp) with equal | sooner
      · rw [← (Prod.mk.inj equal).1]
        exact Nat.le_refl _
      · exact sooner.length_le
    simp only [List.mem_cons, List.not_mem_nil, or_false, Prod.mk.injEq] at among
    rcases among with ⟨rfl, -⟩ | ⟨rfl, -⟩ | ⟨-, rfl⟩
    · simp at shallow
    · simp at shallow
    · rw [show envelope = _ from same]

end Execution

end CallTree
