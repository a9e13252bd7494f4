/-
# CallTree.Proofs.Execution.Order — each call is made once and in its turn.

At every moment of a request, no two calls that have started share a position, and each of them is a
call of the unfolded tree that started after all had ended that it comes after. When the request
succeeds, the calls made are exactly those of the unfolded tree (`Execution.calls_once_in_order`).

The tree is unfolded along what the calls of this request have come to, so nothing is asked of the
resolvers: they may keep count, fail, and hang as they like.
-/
import CallTree.Proofs.Execution.Moments
import CallTree.Proofs.Execution.Soundness

namespace CallTree

namespace Execution

/-- **Each call once and in its turn.** At every moment of a request no call has been made twice, and
each call that has been made is one that the unfolded tree asks for, after the call that supplies its
value, and in a conditional block after all calls below its real siblings. When the request succeeds,
the calls made for it are those of the unfolded tree, each has ended, and its data is the result. -/
theorem calls_once_in_order {r : Registry} {q : Request} {n : Node} (asks : q.source.read = .ok n) :
    (∀ j, Moment r q j →
      (j.calls.map Call.path).Nodup ∧ Ordered (n.plan r j.history).calls j.history) ∧
    ∀ data errors calls, alone r q = some ⟨.success data errors, calls⟩ →
      ∃ j, journal r q = some j ∧ calls = j.calls ∧ (n.plan r j.history).Done data j.history := by
  refine ⟨?_, ?_⟩
  · intro j moment
    obtain ⟨once, -, keeps⟩ := moment.seen asks
    exact ⟨once, keeps.ordered⟩
  · intro data errors calls success
    obtain ⟨j, journaled, same, -, seen⟩ := success_inv asks success
    exact ⟨j, journaled, same, seen.keeps.succeeded data rfl⟩

theorem calls_once_in_order_viewer :
    ∃ j, journal Example.registry { source := .call viewer } = some j ∧
      (j.calls.map Call.path).Nodup ∧ (viewer.plan Example.registry j.history).Done viewed j.history := by
  obtain ⟨calls, success⟩ := success_viewer
  obtain ⟨moments, successes⟩ :=
    calls_once_in_order (r := Example.registry) (q := { source := .call viewer }) (n := viewer) rfl
  obtain ⟨j, journaled, -, done⟩ := successes _ _ _ success
  exact ⟨j, journaled, (moments j (moment_journal journaled)).1, done⟩

end Execution

end CallTree
