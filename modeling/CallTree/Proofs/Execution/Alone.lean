/-
# CallTree.Proofs.Execution.Alone — how a request is answered.

The response to a request is that of any finished run of its lane (`Execution.alone_eq`). If its lane
is answered, the response tells of an outcome that the resolution can come to, and of the journal
after the steps that lead to it (`Execution.alone_inv`). A request that does not hang is answered
(`Execution.exists_alone`).
-/
import CallTree.Proofs.Execution.Limits
import CallTree.Proofs.Task.Machine

namespace CallTree

namespace Request

/-- The lane of a request before anything has run. -/
def begun (r : Registry) (q : Request) : Lane Journal Abort Value × List Due :=
  Lane.begun (q.task r) q.journal

/-- The response to an answered request. -/
theorem respond_of_answered {q : Request} {l : Lane Journal Abort Value} (h : l.answer.isSome) :
    q.respond l = l.answer.map fun a => response a.outcome a.state := by
  obtain ⟨a, answer⟩ := Option.isSome_iff_exists.1 h
  rw [respond, answer]
  rfl

/-- **What a response tells of**: the answer in the lane, or if there is none, that the time limit of
the request is up. -/
theorem respond_inv {q : Request} {l : Lane Journal Abort Value} {given : Response}
    (h : q.respond l = some given) :
    (∃ a, l.answer = some a ∧ given = response a.outcome a.state) ∨
      l.answer = none ∧ ∃ x, Limit.seconds q.limit = .ok x ∧ Limit.passes x = true ∧
        given = response (.error (.elapsed x)) l.state := by
  rw [respond] at h
  split at h
  · rename_i a answer
    exact .inl ⟨a, answer, (Option.some.inj h).symm⟩
  · rename_i unanswered
    split at h
    · cases h
    · rename_i x seconds
      split at h
      · rename_i passes
        exact .inr ⟨unanswered, x, seconds, passes, (Option.some.inj h).symm⟩
      · cases h

/-- All finished runs of the lane of a request give the same response. -/
theorem respond_congr {r : Registry} {q : Request} {y z : Lane Journal Abort Value × List Due}
    (first : Lane.Reaches (q.begun r) y) (second : Lane.Reaches (q.begun r) z)
    (finished : Lane.Finished y) (finished' : Lane.Finished z) : q.respond y.1 = q.respond z.1 := by
  obtain ⟨same, whole⟩ := first.agree second finished finished'
  cases answer : y.1.answer with
  | none => rw [whole answer]
  | some a => rw [respond, answer, respond, ← same, answer]

end Request

namespace Execution

variable {r : Registry} {q : Request}

theorem get_roots (qs : List Request) (i : Fin qs.length) :
    (roots r qs).get i = ((qs.get i).task r, (qs.get i).journal) :=
  Vector.getElem_ofFn i.isLt

/-- The lane of a request among those executed together. -/
theorem view_together (qs : List Request) (i : Fin qs.length) :
    (Machine.start (roots r qs)).view i = (qs.get i).begun r := by
  rw [Machine.view_start, get_roots]
  rfl

/-- The journal of a request at the moment of its answer. -/
def journal (r : Registry) (q : Request) : Option Journal :=
  (Machine.start (roots r [q])).run.lanes[0].answer.map fun a => a.state

/-- There is a finished run of the lane of a request. -/
theorem exists_run (r : Registry) (q : Request) :
    ∃ y, Lane.Reaches (q.begun r) y ∧ Lane.Finished y ∧ alone r q = q.respond y.1 ∧
      journal r q = y.1.answer.map fun a => a.state := by
  obtain ⟨reaches, done⟩ := Machine.reaches_run (Machine.start (roots r [q])) 0
  rw [view_together] at reaches
  exact ⟨_, reaches, done, rfl, rfl⟩

/-- **Whatever finished run there is of the lane of a request**, it gives the response to the request
alone. -/
theorem alone_eq {y : Lane Journal Abort Value × List Due} (run : Lane.Reaches (q.begun r) y)
    (finished : Lane.Finished y) : alone r q = q.respond y.1 := by
  obtain ⟨z, reaches, done, same, -⟩ := exists_run r q
  rw [same]
  exact Request.respond_congr reaches run done finished

/-- The journal of a request is that of any finished run of its lane. -/
theorem journal_eq {y : Lane Journal Abort Value × List Due} (run : Lane.Reaches (q.begun r) y)
    (finished : Lane.Finished y) : journal r q = y.1.answer.map fun a => a.state := by
  obtain ⟨z, reaches, done, -, same⟩ := exists_run r q
  rw [same, (reaches.agree run done finished).1]

/-- **What an answer tells of**: an outcome of the resolution, unless a time limit was up. -/
theorem alone_inv {response : Response} (h : alone r q = some response) :
    (∃ outcome updates, (q.task r).Ends outcome updates ∧
        journal r q = some (perform updates q.journal) ∧
        response = Request.response outcome (perform updates q.journal)) ∨
      ∃ x j, Limit.seconds q.limit = .ok x ∧ response = Request.response (.error (.elapsed x)) j := by
  obtain ⟨y, reaches, -, same, journaled⟩ := exists_run r q
  rw [same] at h
  rcases Request.respond_inv h with ⟨a, answer, rfl⟩ | ⟨-, x, seconds, -, rfl⟩
  · obtain ⟨updates, state, ends⟩ := reaches.ends answer
    rw [answer, Option.map_some, state] at journaled
    exact .inl ⟨a.outcome, updates, ends, journaled, by rw [state]⟩
  · exact .inr ⟨x, y.1.state, seconds, rfl⟩

/-- **A request that does not hang is answered**, with an outcome of its resolution. -/
theorem exists_alone (lively : r.Lively) (patient : q.Patient) :
    ∃ outcome updates, (q.task r).Ends outcome updates ∧
      alone r q = some (Request.response outcome (perform updates q.journal)) := by
  obtain ⟨y, reaches, done, same, -⟩ := exists_run r q
  have answered := reaches.answered (Request.lively_task lively patient) done
  obtain ⟨a, answer⟩ := Option.isSome_iff_exists.1 answered
  obtain ⟨updates, state, ends⟩ := reaches.ends answer
  refine ⟨a.outcome, updates, ends, ?_⟩
  rw [same, Request.respond, answer, ← state]

end Execution

end CallTree
