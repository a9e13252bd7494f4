/-
# CallTree.Proofs.Sequential.Blocks — conditional blocks, eliminated.

What the children of a call come to can be told from the calls alone, wherever they stand: from the
real children, and from those in the blocks that hold of what the real children give
(`told_evaluateBelow_iff`). So two lists of children with the same real children and the same blocks
come to the same, and so does the list without blocks in which the calls of the blocks that hold come
after the real children.
-/
import CallTree.Proofs.Resolution.Blocks
import CallTree.Proofs.Sequential.Relocation

namespace CallTree

namespace Sequential

open Journal Resolution

variable {ε α : Type}

/-- What a run of calls gives and tells clients. -/
abbrev tellRun (run : α × List Event) : α × List (List String) := (run.1, reported run.2)

/-- **What is told of a verdict**: its result with what clients are told of failures, or its fault. -/
def Verdict.told (v : Verdict ε α) : Except ε (α × List (List String)) := v.map tellRun

theorem Verdict.told_eq_ok_iff {v : Verdict ε α} {a : α} {told : List (List String)} :
    v.told = .ok (a, told) ↔ ∃ log, v = .ok (a, log) ∧ reported log = told := by
  rw [Verdict.told, map_eq_ok_iff]
  constructor
  · rintro ⟨⟨a', log⟩, rfl, same⟩
    cases same
    exact ⟨log, rfl, rfl⟩
  · rintro ⟨log, rfl, rfl⟩
    exact ⟨_, rfl, rfl⟩

/-- The place of a verdict is not told. -/
theorem Verdict.told_moved (front : Path) (v : Verdict ε α) : (v.moved front).told = v.told := by
  rcases v with e | ⟨a, log⟩
  · rfl
  · exact congrArg (fun told => Except.ok (a, told)) (reported_moved front log)

section

variable (b : Blame ε) (r : Registry) (answers : Answers) (owner : String) (data : Value)

/-- What is told of a call on a value of a type, wherever it stands. -/
def tell (n : Node) : Except ε (Value × List (List String)) :=
  (evaluate b r answers n owner data []).told

variable {b r answers owner data}

theorem told_evaluateAt (c : Placed) :
    (evaluateAt b r answers owner data c).told = tell b r answers owner data c.2 := by
  obtain ⟨path, n⟩ := c
  have moved : evaluate b r answers n owner data (path ++ []) = _ := evaluate_moved n owner data []
  rw [List.append_nil] at moved
  rw [evaluateAt, moved, Verdict.told_moved, tell]

/-- **Calls side by side succeed** by what is told of them, wherever they stand. -/
theorem map_tell_eq_ok_iff {cs : List Placed} {outs : List (Value × List (List String))} :
    (cs.map Prod.snd).map (tell b r answers owner data) = outs.map .ok ↔
      ∃ runs : List (Value × List Event),
        cs.map (evaluateAt b r answers owner data) = runs.map .ok ∧ outs = runs.map tellRun := by
  induction cs generalizing outs with
  | nil =>
    constructor
    · intro none
      exact ⟨[], rfl, List.eq_nil_of_map_eq_nil none.symm⟩
    · rintro ⟨runs, none, rfl⟩
      rw [List.eq_nil_of_map_eq_nil none.symm]
      rfl
  | cons c rest ih =>
    constructor
    · intro all
      cases outs with
      | nil => cases all
      | cons out outs =>
        simp only [List.map_cons, List.cons.injEq] at all
        rw [← told_evaluateAt] at all
        obtain ⟨log, first, told⟩ := Verdict.told_eq_ok_iff.1 all.1
        obtain ⟨runs, others, rfl⟩ := ih.1 all.2
        refine ⟨(out.1, log) :: runs, ?_, ?_⟩
        · rw [List.map_cons, first, others]
          rfl
        · rw [List.map_cons, tellRun, told]
    · rintro ⟨runs, all, rfl⟩
      cases runs with
      | nil => cases all
      | cons run runs =>
        simp only [List.map_cons, List.cons.injEq] at all ⊢
        refine ⟨?_, ih.2 ⟨runs, all.2, rfl⟩⟩
        rw [← told_evaluateAt, all.1]
        rfl

theorem values_of_runs (runs : List (Value × List Event)) :
    (runs.map tellRun).map (·.1) = runs.map (·.1) := by
  rw [List.map_map]
  rfl

theorem reported_of_runs (runs : List (Value × List Event)) :
    reported (runs.flatMap (·.2)) = (runs.map tellRun).flatMap (·.2) := by
  induction runs with
  | nil => rfl
  | cons run runs ih => rw [List.flatMap_cons, reported_append, ih, List.map_cons, List.flatMap_cons]

/-- A conditional block is no call. -/
theorem tell_of_isWhen {n : Node} (isWhen : n.isWhen = true) :
    tell b r answers owner data n = .error (b.fault (.shape .whenOutside)) := by
  obtain ⟨name, args, children⟩ := n
  have when : name = Node.whenName := of_decide_eq_true isWhen
  subst when
  rw [tell, evaluate_when]
  rfl

/-- There is no conditional block among calls that succeed. -/
theorem noWhen_of_all {ns : List Node} {outs : List (Value × List (List String))}
    (all : ns.map (tell b r answers owner data) = outs.map .ok) : ∀ n ∈ ns, n.isWhen = false := by
  intro n mem
  have told : tell b r answers owner data n ∈ outs.map .ok := all ▸ List.mem_map_of_mem mem
  obtain ⟨out, -, same⟩ := List.mem_map.1 told
  by_contra isWhen
  rw [tell_of_isWhen (Bool.not_eq_false _ ▸ isWhen)] at same
  cases same

/-- **The children of a call, told from the calls alone**: the real ones, and those in the blocks that
hold of what the real ones give. Neither the place of a block nor what other blocks give counts. -/
theorem told_evaluateBelow_iff {ns : List Node} {path : Path} {w : Value}
    {told : List (List String)} :
    (evaluateBelow b r answers ns owner data path).told = .ok (w, told) ↔
      ∃ (output : Table Value) (outs outs' : List (Value × List (List String))),
        ((∀ n ∈ Node.realAmong ns, n.isCompose = false) ∧
          (Node.realAmong ns).map (tell b r answers owner data) = outs.map .ok ∧
          output = mergeAll [] (outs.map (·.1))) ∧
        Node.Decided output ns ∧
        ((∀ n ∈ Node.admittedAmong output ns, n.isCompose = false) ∧
          (Node.admittedAmong output ns).map (tell b r answers owner data) = outs'.map .ok) ∧
        w = .object (mergeAll [] ((outs ++ outs').map (·.1))) ∧ told = (outs ++ outs').flatMap (·.2) := by
  rw [Verdict.told_eq_ok_iff]
  constructor
  · rintro ⟨log, found, rfl⟩
    obtain ⟨bs, runs, runs', ⟨plain, all⟩, holds, ⟨plain', all'⟩, rfl, rfl⟩ :=
      evaluateBelow_succeeds_iff.1 found
    obtain ⟨decided, rfl⟩ := holding_conditional.1 holds
    rw [any_isCompose_iff, map_snd_real] at plain
    rw [any_isCompose_iff, map_snd_admitted] at plain'
    have outs := map_tell_eq_ok_iff.2 ⟨runs, all, rfl⟩
    have outs' := map_tell_eq_ok_iff.2 ⟨runs', all', rfl⟩
    rw [map_snd_real] at outs
    rw [map_snd_admitted] at outs'
    refine ⟨_, runs.map tellRun, runs'.map tellRun, ⟨plain, outs, by rw [values_of_runs]⟩, decided,
      ⟨plain', outs'⟩, ?_, ?_⟩
    · rw [← List.map_append, values_of_runs]
    · rw [← List.map_append, reported_of_runs]
  · rintro ⟨output, outs, outs', ⟨plain, all, rfl⟩, decided, ⟨plain', all'⟩, rfl, rfl⟩
    rw [← map_snd_real path ns] at all plain
    rw [← map_snd_admitted _ path ns] at all' plain'
    obtain ⟨runs, ran, rfl⟩ := map_tell_eq_ok_iff.1 all
    obtain ⟨runs', ran', rfl⟩ := map_tell_eq_ok_iff.1 all'
    rw [values_of_runs] at decided plain' ran'
    refine ⟨(runs ++ runs').flatMap (·.2), evaluateBelow_succeeds_iff.2 ⟨_, runs, runs',
      ⟨(any_isCompose_iff _).2 plain, ran⟩, holding_conditional.2 ⟨decided, rfl⟩,
      ⟨(any_isCompose_iff _).2 plain', ran'⟩, ?_, rfl⟩, ?_⟩
    · rw [← List.map_append, values_of_runs]
    · rw [← List.map_append, reported_of_runs]

/-- **Children without conditional blocks**, told from the calls alone. -/
theorem told_evaluateBelow_plain_iff {ns : List Node} (noWhen : ∀ n ∈ ns, n.isWhen = false)
    {path : Path} {w : Value} {told : List (List String)} :
    (evaluateBelow b r answers ns owner data path).told = .ok (w, told) ↔
      ∃ outs : List (Value × List (List String)), (∀ n ∈ ns, n.isCompose = false) ∧
        ns.map (tell b r answers owner data) = outs.map .ok ∧
        w = .object (mergeAll [] (outs.map (·.1))) ∧ told = outs.flatMap (·.2) := by
  have none (output : Table Value) : Node.admittedAmong output ns = [] := by
    rw [Node.admittedAmong, Node.blocksAmong_eq_nil noWhen]
    rfl
  rw [told_evaluateBelow_iff, Node.realAmong_eq_self noWhen]
  constructor
  · rintro ⟨output, outs, outs', ⟨plain, all, -⟩, -, ⟨-, all'⟩, rfl, rfl⟩
    rw [none] at all'
    rw [List.eq_nil_of_map_eq_nil all'.symm, List.append_nil]
    exact ⟨outs, plain, all, rfl, rfl⟩
  · rintro ⟨outs, plain, all, rfl, rfl⟩
    refine ⟨_, outs, [], ⟨plain, all, rfl⟩, ?_, ?_, by rw [List.append_nil], by rw [List.append_nil]⟩
    · rw [Node.Decided, Node.blocksAmong_eq_nil noWhen]
      exact List.forall_mem_nil _
    · rw [none]
      exact ⟨List.forall_mem_nil _, rfl⟩

/-- **Where a block stands among its siblings does not count**: children with the same real calls and
the same blocks, each in the same order, come to the same. -/
theorem told_evaluateBelow_congr {ns ns' : List Node} (real : Node.realAmong ns' = Node.realAmong ns)
    (blocks : Node.blocksAmong ns' = Node.blocksAmong ns) {path path' : Path} {w : Value}
    {told : List (List String)} :
    (evaluateBelow b r answers ns' owner data path').told = .ok (w, told) ↔
      (evaluateBelow b r answers ns owner data path).told = .ok (w, told) := by
  have admitted (output : Table Value) :
      Node.admittedAmong output ns' = Node.admittedAmong output ns := by
    rw [Node.admittedAmong, Node.admittedAmong, blocks]
  rw [told_evaluateBelow_iff, told_evaluateBelow_iff, real]
  simp only [Node.Decided, admitted, blocks]

/-- **Conditional blocks, eliminated**: where children succeed, so do the real ones alone, all blocks can
be asked about what these come to, and the calls in the blocks that hold, put behind the real ones, make
a list of children without blocks that comes to the same. -/
theorem told_evaluateBelow_flat {ns : List Node} {path : Path} {w : Value} {told : List (List String)}
    (h : (evaluateBelow b r answers ns owner data path).told = .ok (w, told)) :
    ∃ (output : Table Value) (first : List (List String)), Node.Decided output ns ∧
      (∀ n ∈ Node.realAmong ns ++ Node.admittedAmong output ns, n.isWhen = false) ∧
      ∀ path' : Path,
        (evaluateBelow b r answers (Node.realAmong ns) owner data path').told =
          .ok (.object output, first) ∧
        (evaluateBelow b r answers (Node.realAmong ns ++ Node.admittedAmong output ns) owner data
          path').told = .ok (w, told) := by
  obtain ⟨output, outs, outs', ⟨plain, all, rfl⟩, decided, ⟨plain', all'⟩, rfl, rfl⟩ :=
    told_evaluateBelow_iff.1 h
  have noWhen := noWhen_of_all all
  have noWhen' : ∀ n ∈ Node.realAmong ns ++ Node.admittedAmong (mergeAll [] (outs.map (·.1))) ns,
      n.isWhen = false := by
    intro n mem
    rcases List.mem_append.1 mem with isReal | inBlock
    · exact noWhen n isReal
    · exact noWhen_of_all all' n inBlock
  refine ⟨_, outs.flatMap (·.2), decided, noWhen', fun path' => ⟨?_, ?_⟩⟩
  · exact (told_evaluateBelow_plain_iff noWhen).2 ⟨outs, plain, all, rfl, rfl⟩
  · refine (told_evaluateBelow_plain_iff noWhen').2 ⟨outs ++ outs', ?_, ?_, rfl, rfl⟩
    · intro n mem
      rcases List.mem_append.1 mem with isReal | inBlock
      · exact plain n isReal
      · exact plain' n inBlock
    · rw [List.map_append, List.map_append, all, all']

end

end Sequential

end CallTree
