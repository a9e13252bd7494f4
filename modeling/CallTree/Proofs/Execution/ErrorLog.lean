/-
# CallTree.Proofs.Execution.ErrorLog — the failure log lists failed calls in the order of the tree.

Calls are told apart by their positions: no two calls of a request share one, and no failed call is
below another. When a request succeeds, its failure log is what a walk of the unfolded tree comes
across, from top to bottom and in the order of the request (`Execution.errors_in_tree_order`). It does
not matter in which order the calls have run; those of a conditional block run after all its siblings.

Nothing is asked of the resolvers: the tree is unfolded along what the calls of this request have come
to.
-/
import CallTree.Proofs.Execution.Moments
import CallTree.Proofs.Resolution.Preorder

namespace CallTree

open Journal

/-- **The walk of a request's call tree**, along what a history tells of its calls. -/
abbrev Node.walk (r : Registry) (n : Node) (history : List Event) : List Call :=
  Unfolding.walk r (told history) n Registry.rootName .null []

/-- The entry of the failure log for a call, if that has failed. -/
def failedAt (told : Path → Option (Except Failure Value)) (c : Call) : Option FailedCall :=
  match told c.path with
  | some (.error f) => some ⟨c.path, c.field, f.report⟩
  | _ => none

/-- The positions on the walk increase, and nothing on it is below a failed call. -/
theorem Node.ahead_walk (r : Registry) (n : Node) (history : List Event) :
    (n.walk r history).Pairwise (Unfolding.Ahead (told history)) :=
  (Unfolding.walked_walk n Registry.rootName .null []).ahead

section

variable {told : Path → Option (Except Failure Value)}

theorem failedAt_eq_some {c : Call} {f : FailedCall} (h : failedAt told c = some f) :
    f.path = c.path ∧ ∃ failure, told c.path = some (.error failure) := by
  unfold failedAt at h
  split at h
  · rename_i failure failed
    cases h
    exact ⟨rfl, failure, failed⟩
  · cases h

/-- The failures in a history are those of the calls that have ended, where what is told of calls is
true. -/
theorem failures_eq {history : List Event} (tells : Resolution.Tells told history) :
    failures history = (endedIn history).filterMap (failedAt told) := by
  rw [failures, endedIn, List.filterMap_filterMap]
  refine List.filterMap_congr fun e mem => ?_
  match e, mem with
  | .started c, _ => rfl
  | .ended c (.ok v), mem => rw [Event.failed?, Event.ended?, Option.bind_some, failedAt, tells c _ mem]
  | .ended c (.error f), mem =>
    rw [Event.failed?, Event.ended?, Option.bind_some, failedAt, tells c _ mem]

end

namespace Seen

variable {r : Registry} {n : Node} {stood : Standing Abort Value} {history : List Event}

theorem tells (h : Seen r n stood history) : Resolution.Tells (told history) history := by
  obtain ⟨left, accounts⟩ := h.accounts
  exact tells_of_accounts h.once accounts

/-- No call has ended twice. -/
theorem nodup_ended (h : Seen r n stood history) : ((endedIn history).map Call.path).Nodup := by
  obtain ⟨left, accounts⟩ := h.accounts
  have both := (accounts.perm.map Call.path).nodup_iff.1 h.once
  rw [List.map_append] at both
  exact (List.nodup_append.1 both).1

/-- Whatever has ended is on the walk. -/
theorem mem_walk (h : Seen r n stood history) {c : Call} (ended : c ∈ endedIn history) :
    c ∈ n.walk r history := by
  obtain ⟨left, accounts⟩ := h.accounts
  have started := accounts.perm.mem_iff.2 (List.mem_append_left left ended)
  obtain ⟨before, rest, here⟩ := List.append_of_mem (mem_startedIn.1 started)
  obtain ⟨p, mem, rfl, -⟩ := h.keeps.ordered before _ rest here
  exact (Unfolding.lists_unfold n _ _ _).among (List.mem_map_of_mem mem)

/-- Two failed calls on the walk stand apart, whichever comes first. -/
theorem apart_of_failed (r : Registry) (n : Node) (history : List Event) {c d : Call} {f g : Failure}
    (hc : c ∈ n.walk r history) (hd : d ∈ n.walk r history) (ne : c.path ≠ d.path)
    (failed : told history c.path = some (.error f))
    (failed' : told history d.path = some (.error g)) : c.path.Apart d.path := by
  have of_ahead {c d : Call} {f : Failure} (stands : Unfolding.Ahead (told history) c d)
      (failed : told history c.path = some (.error f)) : c.path.Apart d.path :=
    ⟨stands.2 f failed, stands.1.not_below⟩
  have symm : Std.Symm fun c d : Call => c = d ∨ Unfolding.Ahead (told history) c d ∨
      Unfolding.Ahead (told history) d c :=
    ⟨fun _ _ stands => stands.imp Eq.symm Or.symm⟩
  have pairs : (n.walk r history).Pairwise fun c d => c = d ∨
      Unfolding.Ahead (told history) c d ∨ Unfolding.Ahead (told history) d c :=
    (n.ahead_walk r history).imp fun first => .inr (.inl first)
  rcases pairs.forall_of_forall (fun _ _ => .inl rfl) hc hd with rfl | first | second
  · exact absurd rfl ne
  · exact of_ahead first failed
  · exact (of_ahead second failed').symm

/-- **No failed call is below another.** -/
theorem apart_failures (h : Seen r n stood history) :
    ((failures history).map FailedCall.path).Pairwise Path.Apart := by
  rw [failures_eq h.tells, List.pairwise_map, List.pairwise_filterMap]
  refine (List.pairwise_map.1 h.nodup_ended).imp_of_mem ?_
  intro c d hc hd ne f hf g hg
  obtain ⟨position, _, failed⟩ := failedAt_eq_some hf
  obtain ⟨position', _, failed'⟩ := failedAt_eq_some hg
  rw [position, position']
  exact apart_of_failed r n history (h.mem_walk hc) (h.mem_walk hd) ne failed failed'

/-- **The calls of a success are those on the walk.** -/
theorem walk_perm {v : Value} (h : Seen r n (.ended (.ok v)) history) :
    (n.walk r history).Perm (startedIn history) := by
  have done := h.keeps.succeeded v rfl
  exact (done.started.trans ((Unfolding.lists_unfold n _ _ _).whole v done.result)).symm

/-- **The failure log of a success** is what the walk comes across. -/
theorem reports_eq {v : Value} (h : Seen r n (.ended (.ok v)) history) :
    Context.reports (failures history) =
      ((n.walk r history).filterMap (failedAt (told history))).map FailedCall.told := by
  obtain ⟨left, accounts⟩ := h.accounts
  have closed := accounts.perm
  rw [accounts.succeeded v rfl, List.append_nil] at closed
  have same : (failures history).Perm ((n.walk r history).filterMap (failedAt (told history))) := by
    rw [failures_eq h.tells]
    exact (closed.symm.trans h.walk_perm.symm).filterMap _
  have before : ((n.walk r history).filterMap (failedAt (told history))).Pairwise
      fun f g => f.path.Before g.path := by
    refine (n.ahead_walk r history).filterMap _ ?_
    intro c d stands f hf g hg
    rw [(failedAt_eq_some hf).1, (failedAt_eq_some hg).1]
    exact stands.1
  have once : ((failures history).map FailedCall.path).Nodup :=
    h.apart_failures.imp fun {p q} apart (same : p = q) => apart.1 (same ▸ List.prefix_refl p)
  rw [Context.reports, Context.arrange_eq_of_perm same once,
    Context.arrange_eq_self (before.imp fun stands => stands.1)]
  rfl

end Seen

namespace Execution

/-- **The order of the failure log.** At every moment of a request no two of its calls share a position,
and no failed call is below another. When the request succeeds, its calls are those on the walk of the
unfolded tree, their positions increase along the walk, and its failure log is what the walk comes
across; each call has started only after all had ended that it comes after, which for a call in a
conditional block are all calls below the real siblings of the block. -/
theorem errors_in_tree_order {r : Registry} {q : Request} {n : Node} (asks : q.source.read = .ok n) :
    (∀ j, Moment r q j → (j.calls.map Call.path).Nodup ∧
      ((failures j.history).map FailedCall.path).Pairwise Path.Apart) ∧
    ∀ data errors calls, alone r q = some ⟨.success data errors, calls⟩ →
      ∃ j, journal r q = some j ∧ calls = j.calls ∧ (n.walk r j.history).Perm calls ∧
        (n.walk r j.history).Pairwise (fun c d => c.path.Before d.path) ∧
        errors =
          ((n.walk r j.history).filterMap (failedAt (told j.history))).map FailedCall.told ∧
        Ordered (n.plan r j.history).calls j.history := by
  refine ⟨?_, ?_⟩
  · intro j moment
    have seen := moment.seen asks
    exact ⟨seen.once, seen.apart_failures⟩
  · intro data errors calls success
    obtain ⟨j, journaled, rfl, told, seen⟩ := success_inv asks success
    exact ⟨j, journaled, rfl, seen.walk_perm, (n.ahead_walk r _).imp fun stands => stands.1,
      told.trans seen.reports_eq, seen.keeps.ordered⟩

/-! ## A stall -/

/-- What a stall answers: it is open, and nobody knows anything else about it. -/
def stallAnswers : Answers := fun _ name _ _ =>
  if name = "stall" then .ok (.object [])
  else if name = "open" then .ok (.bool true)
  else .error ⟨"LookupError", name⟩

/-- The registry of a stall. -/
def stall : Registry :=
  stallAnswers.registry (fun _ => 0)
    [("Stall", [("open", .ofName false "Boolean!"), ("notice", .ofName false "String"),
      ("stock", .ofName false "Number")])] [("stall", .ofName false "Stall!")]

/-- A request for the stock of a stall, and before it for the notice if the stall is open. -/
def stallNode : Node :=
  .mk "stall" none [.mk Node.whenName (some [("truthy", .list [.text "open"])]) [.leaf "notice"],
    .leaf "open", .leaf "stock"]

/-- The notice fails after the stock, and is told before it. -/
theorem success_stall : ∃ calls, alone stall { source := .call stallNode } =
    some ⟨.success (.single "stall"
        (.object [("open", .bool true), ("stock", .null), ("notice", .null)]))
      [["notice", "notice"], ["stock", "stock"]], calls⟩ := by
  have answer : alone stall { source := .call stallNode } = _ := alone_eq ⟨9, rfl⟩ (.inl rfl)
  obtain ⟨j, same, failed⟩ : ∃ j, alone stall { source := .call stallNode } =
      some (Request.response (.ok (.single "stall"
        (.object [("open", .bool true), ("stock", .null), ("notice", .null)]))) j) ∧
      j.context.failures = [⟨[2], "stock", "stock"⟩, ⟨[0, 0], "notice", "notice"⟩] :=
    ⟨_, answer.trans rfl, rfl⟩
  refine ⟨j.calls, ?_⟩
  have swapped : Context.reports j.context.failures =
      Context.reports [⟨[0, 0], "notice", "notice"⟩, ⟨[2], "stock", "stock"⟩] := by
    rw [failed]
    exact Context.reports_eq_of_perm (.swap ..) (by decide)
  have sorted : Context.reports [⟨[0, 0], "notice", "notice"⟩, ⟨[2], "stock", "stock"⟩] =
      [["notice", "notice"], ["stock", "stock"]] := by
    rw [Context.reports, Context.arrange_eq_self (by decide)]
    rfl
  rw [same, Request.response, Request.envelope, Context.errors_eq, swapped, sorted]

theorem errors_in_tree_order_stall : ∃ j, journal stall { source := .call stallNode } = some j ∧
    ((failures j.history).map FailedCall.path).Pairwise Path.Apart ∧
    (stallNode.walk stall j.history).Pairwise (fun c d => c.path.Before d.path) ∧
    ((stallNode.walk stall j.history).filterMap (failedAt (told j.history))).map FailedCall.told =
      [["notice", "notice"], ["stock", "stock"]] := by
  obtain ⟨calls, success⟩ := success_stall
  obtain ⟨moments, successes⟩ :=
    errors_in_tree_order (r := stall) (q := { source := .call stallNode }) (n := stallNode) rfl
  obtain ⟨j, journaled, -, -, increasing, errors, -⟩ := successes _ _ _ success
  exact ⟨j, journaled, (moments j (moment_journal journaled)).2, increasing, errors.symm⟩

end Execution

end CallTree
