/-
# CallTree.Proofs.Execution.Isolation — a request is answered as if it were alone.

Requests share a queue and nothing else. So the response to a request, which is its envelope with the
resolver calls made until then, is the same whatever is executed beside it or was executed before it
(`Execution.isolated`). Resolvers may count, write and read in the context of their request as they
like.

Nothing is promised of requests after one that hangs: these are not answered if they have to wait for
it.
-/
import CallTree.Proofs.Execution.Alone

namespace CallTree

namespace Execution

variable {r : Registry}

/-- Requests executed together. -/
theorem together_eq (r : Registry) (qs : List Request) : together r qs = qs.map (alone r) := by
  apply List.ext_getElem (by simp [together])
  intro i h₁ h₂
  have hi : i < qs.length := by simpa using h₂
  obtain ⟨reaches, done⟩ := Machine.reaches_run (Machine.start (roots r qs)) ⟨i, hi⟩
  rw [view_together] at reaches
  have same : alone r qs[i] = _ := alone_eq reaches done
  rw [List.getElem_map, same]
  simp only [together, List.getElem_map, List.getElem_finRange]
  rfl

/-- Requests executed one after the other. -/
theorem inTurn_eq (lively : r.Lively) {qs : List Request} (unlimited : ∀ q ∈ qs, q.limit = .null) :
    inTurn r qs = qs.map (alone r) := by
  have lively' (i : Fin qs.length) : ((roots r qs).get i).1.Lively := by
    rw [get_roots]
    exact Request.lively_task lively (.inl (unlimited _ (List.getElem_mem _)))
  obtain ⟨served, _⟩ := Machine.reaches_serve lively' (Machine.idle (roots r qs))
    (List.nodup_finRange _) fun i _ => Machine.view_idle (roots r qs) i
  apply List.ext_getElem (by simp [inTurn])
  intro i h₁ h₂
  have hi : i < qs.length := by simpa using h₂
  obtain ⟨reaches, answered⟩ := served ⟨i, hi⟩ (List.mem_finRange _)
  rw [get_roots] at reaches
  have same : alone r qs[i] = _ := alone_eq reaches (.inl answered)
  rw [List.getElem_map, same, Request.respond_of_answered answered]
  simp only [inTurn, List.getElem_map, List.getElem_finRange]
  rfl

/-- **Isolation.** Requests that are executed together get the responses that each gets alone. So do
requests that are executed one after the other, in the midst of what aborted ones have left running;
there nothing may hang, and then all are answered. -/
theorem isolated (r : Registry) (qs : List Request) :
    together r qs = qs.map (alone r) ∧
      (r.Lively → (∀ q ∈ qs, q.limit = .null) →
        inTurn r qs = qs.map (alone r) ∧ ∀ q ∈ qs, (alone r q).isSome) :=
  ⟨together_eq r qs, fun lively unlimited =>
    ⟨inTurn_eq lively unlimited, fun q mem => by
      obtain ⟨_, _, _, answer⟩ := exists_alone lively (.inl (unlimited q mem))
      rw [answer]
      rfl⟩⟩

/-- A query that counts how often it has been asked in its request, and lets others run before it
answers. -/
def count : Resolver := fun _ _ =>
  .consult (fun c => c.state.set "asked" (.list (.null :: ((c.getState "asked" .null).items?.getD []))))
    fun c => .pause (.value (c.getState "asked" (.list [])))

/-- A registry of one query, which counts. -/
def tally : Registry :=
  { root := [("count", { name := "count", type := .ofName true "Object", resolve := count })] }

/-- A request that counts twice, one that is aborted, and one that counts again. -/
def tallied : List Request :=
  [{ source := .call (.mk Node.composeName none [.leaf "count", .leaf "count"]) },
    { source := .call (.mk Node.composeName none [.leaf "count", .leaf "other"]) },
    { source := .call (.leaf "count") }]

theorem lively_tally : tally.Lively := by
  refine Registry.lively_of_root rfl (List.forall_mem_singleton.2 ?_)
  exact fun _ _ => .consult fun _ => .pause (.done _)

theorem isolated_tally : inTurn tally tallied = tallied.map (alone tally) ∧
    ∀ q ∈ tallied, (alone tally q).isSome :=
  (isolated tally tallied).2 lively_tally (by simp [tallied])

end Execution

end CallTree
