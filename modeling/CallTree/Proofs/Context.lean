/-
# CallTree.Proofs.Context — the order of the failure log.

Reading the failure log puts it in the order of positions, which is linear. So the order in which
failures at different positions were recorded is forgotten (`Context.arrange_eq_of_perm`).
-/
import Mathlib.Data.List.Nodup
import CallTree.Proofs.Path

namespace CallTree

namespace Context

/-- A failure log in the order of its positions. -/
def arrange (log : List FailedCall) : List FailedCall := log.mergeSort fun a b => a.path.le b.path

/-- What clients are told of a failure log. -/
def reports (log : List FailedCall) : List (List String) :=
  (arrange log).map fun f => [f.call, f.report]

theorem errors_eq (c : Context) : c.errors = reports c.failures := rfl

theorem errors_eq_nil {c : Context} (none : c.failures = []) : c.errors = [] := by
  rw [errors, ordered, none, List.mergeSort_nil]
  rfl

theorem reports_singleton (f : FailedCall) : reports [f] = [[f.call, f.report]] := by
  rw [reports, arrange, List.mergeSort_singleton]
  rfl

/-- The order of failures by their positions is transitive, and total. -/
theorem failures_le_trans (a b c : FailedCall) (h : a.path.le b.path = true)
    (h' : b.path.le c.path = true) : a.path.le c.path = true := Path.le_trans h h'

theorem failures_le_total (a b : FailedCall) : (a.path.le b.path || b.path.le a.path) = true := by
  rw [Bool.or_eq_true]
  exact Path.le_total a.path b.path

theorem pairwise_arrange (log : List FailedCall) :
    (arrange log).Pairwise fun a b => a.path.le b.path = true :=
  List.pairwise_mergeSort failures_le_trans failures_le_total log

/-- **The order of recording does not show** where all positions differ. -/
theorem arrange_eq_of_perm {log log' : List FailedCall} (same : log.Perm log')
    (once : (log.map FailedCall.path).Nodup) : arrange log = arrange log' := by
  have perm : (arrange log).Perm (arrange log') :=
    (List.mergeSort_perm log _).trans (same.trans (List.mergeSort_perm log' _).symm)
  refine perm.eq_of_pairwise (fun a b ha hb h h' => ?_) (pairwise_arrange log)
    (pairwise_arrange log')
  have mem : a ∈ log := (List.mergeSort_perm log _).mem_iff.1 ha
  have mem' : b ∈ log := same.mem_iff.2 ((List.mergeSort_perm log' _).mem_iff.1 hb)
  exact List.inj_on_of_nodup_map once mem mem' (Path.le_antisymm h h')

/-- A log that is in order stays as it is. -/
theorem arrange_eq_self {log : List FailedCall}
    (inOrder : log.Pairwise fun a b => a.path.le b.path = true) : arrange log = log :=
  List.mergeSort_of_pairwise inOrder

theorem reports_eq_of_perm {log log' : List FailedCall} (same : log.Perm log')
    (once : (log.map FailedCall.path).Nodup) : reports log = reports log' := by
  rw [reports, reports, arrange_eq_of_perm same once]

/-- **Logs one after the other**, each left of the next, are put in order one by one. -/
theorem arrange_flatten {logs : List (List FailedCall)}
    (apart : logs.Pairwise fun log log' => ∀ f ∈ log, ∀ g ∈ log', f.path.le g.path = true)
    (once : (logs.flatten.map FailedCall.path).Nodup) :
    arrange logs.flatten = (logs.map arrange).flatten := by
  have each (log : List FailedCall) : (arrange log).Perm log := List.mergeSort_perm log _
  have same : logs.flatten.Perm (logs.map arrange).flatten := by
    clear apart once
    induction logs with
    | nil => exact .nil
    | cons log rest ih => exact (each log).symm.append ih
  rw [arrange_eq_of_perm same once]
  apply arrange_eq_self
  rw [List.pairwise_flatten]
  refine ⟨?_, List.pairwise_map.2 (apart.imp ?_)⟩
  · intro log mem
    obtain ⟨log, -, rfl⟩ := List.mem_map.1 mem
    exact pairwise_arrange log
  · intro log log' before f hf g hg
    exact before f ((each log).mem_iff.1 hf) g ((each log').mem_iff.1 hg)

end Context

end CallTree
