/-
# CallTree.Proofs.Execution.Composition — a composition answers as its calls do.

A request for a composition succeeds if and only if every call in it does when it is asked for by itself.
Then its data are the list of theirs, and its failures are theirs one after the other: the calls stand at
positions of their own, so that the order of the failure log does not mix them. If the composition fails,
it tells of a fault that one of the calls can fail with by itself, in the time that it took there
(`Execution.compose_homomorphic`).
-/
import CallTree.Proofs.Execution.Schedules
import CallTree.Proofs.Execution.Termination
import CallTree.Proofs.Node.Reader
import CallTree.Proofs.Resolution.Preorder
import CallTree.Proofs.Resolution.Replay

namespace CallTree

open Journal CallTree.Sequential

/-! ## Compositions, evaluated -/

namespace Sequential

open Resolution

variable {r : Registry} {answers : Answers}

/-- **What a call comes to by itself**: data, with failures. -/
def Yields (r : Registry) (answers : Answers) (n : Node) (part : Value × List (List String)) : Prop :=
  ∃ run, sequential r answers n = .ok run ∧ shown run = part

/-- An envelope that fits the evaluation of a call is a success if the call comes to what it carries. -/
theorem Fits.success_iff {n : Node} {envelope : Envelope} (fits : Fits r answers n envelope)
    (part : Value × List (List String)) :
    envelope = .success part.1 part.2 ↔ Yields r answers n part := by
  rw [Fits] at fits
  unfold Yields
  cases evaluated : sequential r answers n with
  | ok run =>
    rw [evaluated] at fits
    rw [fits, Envelope.success.injEq]
    constructor
    · exact fun same => ⟨run, rfl, Prod.ext same.1 same.2⟩
    · rintro ⟨run', same, rfl⟩
      rw [← Except.ok.inj same]
      exact ⟨rfl, rfl⟩
  | error e =>
    rw [evaluated] at fits
    obtain ⟨fault, -, failure⟩ := fits
    rw [failure]
    refine iff_of_false ?_ ?_
    · intro same
      cases same
    · rintro ⟨run, same, -⟩
      cases same

/-- A call comes to the same at any place. -/
theorem yields_iff {c : Placed} {part : Value × List (List String)} : Yields r answers c.2 part ↔
    ∃ run, evaluateAt .first r answers Registry.rootName .null c = .ok run ∧ shown run = part := by
  obtain ⟨path, n⟩ := c
  show (∃ run, evaluate .first r answers n Registry.rootName .null [] = .ok run ∧ _) ↔
    ∃ run, evaluate .first r answers n Registry.rootName .null path = .ok run ∧ _
  rw [evaluate_at n _ _ path, Verdict.moved]
  constructor
  · rintro ⟨run, found, rfl⟩
    exact ⟨_, map_eq_ok_iff.2 ⟨run, found, rfl⟩, shown_moved path run⟩
  · rintro ⟨run', found, rfl⟩
    obtain ⟨run, here, rfl⟩ := map_eq_ok_iff.1 found
    exact ⟨run, here, (shown_moved path run).symm⟩

/-- **The failures of calls side by side** are told one call after the other. -/
theorem reports_composed {ns : List Node} {runs : List (Value × List Event)}
    (each : List.Forall₂ (fun c run =>
      evaluateAt .first r answers Registry.rootName .null c = .ok run) (placed [] ns) runs) :
    Context.reports (failures (runs.flatMap (·.2))) = runs.flatMap fun run => (shown run).2 := by
  refine reports_of_left (left_placed [] ns) ?_ (map_eq_map_iff.2 each)
  intro c _
  exact under_evaluate c.2 Registry.rootName .null c.1

/-- **A composition comes to a list of what its calls come to**, and to their failures one after the
other. -/
theorem yields_compose_iff {ns : List Node} {data : Value} {errors : List (List String)} :
    Yields r answers (.mk Node.composeName none ns) (data, errors) ↔
      ∃ parts, List.Forall₂ (Yields r answers) ns parts ∧ data = .list (parts.map Prod.fst) ∧
        errors = parts.flatMap Prod.snd := by
  have apart (parts : List (Value × List (List String))) : List.Forall₂ (Yields r answers) ns parts ↔
      ∃ runs, List.Forall₂ (fun c run =>
        evaluateAt .first r answers Registry.rootName .null c = .ok run) (placed [] ns) runs ∧
          parts = runs.map shown := by
    conv => lhs; rw [← map_snd_placed [] ns, List.forall₂_map_left_iff]
    simp only [yields_iff]
    rw [forall₂_comp]
    refine exists_congr fun runs => and_congr_right fun _ => ?_
    rw [← List.forall₂_map_left_iff, List.forall₂_eq_eq_eq, eq_comm]
  constructor
  · rintro ⟨⟨v, log⟩, found, same⟩
    obtain ⟨runs, all, rfl, rfl⟩ := evaluate_compose_eq_ok_iff.1 found
    have ran := map_eq_map_iff.1 all
    obtain ⟨rfl, rfl⟩ := Prod.mk.inj same
    refine ⟨runs.map shown, (apart _).2 ⟨runs, ran, rfl⟩, ?_, ?_⟩
    · rw [List.map_map]
      rfl
    · rw [List.flatMap_map]
      exact reports_composed ran
  · rintro ⟨parts, each, rfl, rfl⟩
    obtain ⟨runs, ran, rfl⟩ := (apart parts).1 each
    refine ⟨_, evaluate_compose_eq_ok_iff.2 ⟨runs, map_eq_map_iff.2 ran, rfl, rfl⟩, ?_⟩
    rw [shown, List.map_map, List.flatMap_map]
    exact Prod.ext rfl (reports_composed ran)

end Sequential

namespace Execution

variable {r : Registry} {answers : Answers}

/-- **What a written call tree comes to**: data, with failures. -/
def Comes (r : Registry) (answers : Answers) (t : Value) (part : Value × List (List String)) : Prop :=
  ∃ n, Node.read t = .ok n ∧ Yields r answers n part

/-- A written composition comes to what its calls come to. -/
theorem comes_composed_iff {cs : List Value} (written : ∀ c ∈ cs, Node.isWritten c = true)
    {data : Value} {errors : List (List String)} :
    Comes r answers (Node.composed cs) (data, errors) ↔
      ∃ parts, List.Forall₂ (fun c => Comes r answers (Node.wrapped c)) cs parts ∧
        data = .list (parts.map Prod.fst) ∧ errors = parts.flatMap Prod.snd := by
  constructor
  · rintro ⟨n, reads, yields⟩
    obtain ⟨ns, rfl, each⟩ := (Node.read_composed_eq_ok_iff written).1 reads
    obtain ⟨parts, yield, same⟩ := yields_compose_iff.1 yields
    exact ⟨parts, forall₂_comp.2 ⟨ns, each, yield⟩, same⟩
  · rintro ⟨parts, each, same⟩
    obtain ⟨ns, reads, yield⟩ := forall₂_comp.1 each
    exact ⟨_, (Node.read_composed_eq_ok_iff written).2 ⟨ns, rfl, reads⟩,
      yields_compose_iff.2 ⟨parts, yield, same⟩⟩

/-- A registry with the same types and contracts comes to the same. -/
theorem comes_congr {r' : Registry} (alike : r.Alike r') {t : Value}
    {part : Value × List (List String)} : Comes r' answers t part ↔ Comes r answers t part := by
  have same (n : Node) : sequential r answers n = sequential r' answers n := evaluate_congr alike ..
  simp only [Comes, Yields, same]

/-- **A request for a written call tree** is answered, and with a success only if the call tree comes to
it. -/
theorem answered_with (gives : r.Gives answers) {q : Request} {t : Value} (asks : q.source = .tree t)
    (unlimited : q.limit = .null) : ∃ response, alone r q = some response ∧
      ∀ part, response.envelope = .success part.1 part.2 ↔ Comes r answers t part := by
  have reads : q.source.read = Node.read t := by rw [asks]; rfl
  cases read : Node.read t with
  | error f =>
    refine ⟨_, alone_of_unread (reads.trans read), fun part => iff_of_false ?_ ?_⟩
    · intro same
      cases same
    · rintro ⟨n, found, -⟩
      cases read.symm.trans found
  | ok n =>
    obtain ⟨response, answer, fits⟩ := fits_alone gives (reads.trans read) (.inl unlimited)
    refine ⟨response, answer, fun part => (fits.success_iff part).trans ?_⟩
    constructor
    · exact fun yields => ⟨n, read, yields⟩
    · rintro ⟨n', found, yields⟩
      rw [read, Except.ok.injEq] at found
      exact found ▸ yields

/-- **A call that is asked for by itself**, without a time limit, on a registry with the same types and
answers. -/
structure Asks (r : Registry) (answers : Answers) (c : Value) (own : Registry × Request) : Prop where
  alike : r.Alike own.1
  gives : own.1.Gives answers
  source : own.2.source = .tree (Node.wrapped c)
  unlimited : own.2.limit = .null

/-- A failure that a request without a time limit is answered with is a fault of its task. -/
theorem fault_of_failure (gives : r.Gives answers) {q : Request} (unlimited : q.limit = .null)
    {response : Response} (answer : alone r q = some response) {tag message : String}
    (failure : response.envelope = .failure tag message) :
    ∃ y a e, Lane.Reaches (q.begun r) y ∧ y.1.answer = some a ∧ a.outcome = .error e ∧
      tag = Envelope.processingTag ∧ message = e.message := by
  obtain ⟨y, run, finished, same, -⟩ := exists_run r q
  have answered := run.answered (Request.lively_task gives.lively (.inl unlimited)) finished
  obtain ⟨a, given⟩ := Option.isSome_iff_exists.1 answered
  rw [same, Request.respond, given, Option.some.injEq] at answer
  rw [← answer] at failure
  cases outcome : a.outcome with
  | ok v =>
    rw [outcome] at failure
    cases failure
  | error e =>
    rw [outcome] at failure
    cases failure
    exact ⟨y, a, e, run, given, outcome, rfl, rfl⟩

/-- **A fault that a call has come to beside others** it can come to by itself, on a registry that takes the
time that it took there. -/
theorem fault_by_itself {n : Node} {front : Path} {j : Journal} {y : Lane Journal Abort Value × List Due}
    (beside : Lane.Beside (Lane.begun
      (Resolution.resolve r n (.of r Registry.rootName .null) (front ++ [])) j) y) {e : Abort}
    (ended : y.1.root.stage = .ended (.error e)) {q : Request} (reads : q.source.read = .ok n)
    (unlimited : q.limit = .null) :
    ∃ seen x, alone (r.replayed seen) q = some x ∧
      x.envelope = .failure Envelope.processingTag e.message := by
  have replays (seen : Nat → Journal) :
      (Resolution.resolve r n (.of r Registry.rootName .null) (front ++ [])).Replays looks counted seen
        (Request.resolution (r.replayed seen) n) :=
    Resolution.replays_resolve n Registry.rootName .null []
  have fresh : counted q.journal = 0 := rfl
  obtain ⟨seen, z, a, run, answer, fault⟩ := beside.answer_replayed replays fresh ended
  rw [← task_of_no_limit reads unlimited] at run
  refine ⟨seen, Request.response a.outcome a.state, ?_, ?_⟩
  · rw [alone_eq run (.inl (by rw [answer]; rfl)), Request.respond, answer]
  · rw [fault]
    rfl

/-- **A fault of a composition is one that a call can fail with by itself.** -/
theorem fault_of_composed (gives : r.Gives answers) {cs : List Value}
    (written : ∀ c ∈ cs, Node.isWritten c = true) {q : Request}
    (asks : q.source = .tree (Node.composed cs)) (unlimited : q.limit = .null) {response : Response}
    (answer : alone r q = some response) {tag message : String}
    (failure : response.envelope = .failure tag message) :
    ∃ c ∈ cs, ∃ own x, Asks r answers c own ∧ alone own.1 own.2 = some x ∧
      x.envelope = .failure tag message := by
  have reads : q.source.read = (Node.readChildren cs).map (.mk Node.composeName none) := by
    rw [asks]
    exact Node.read_composed written
  cases children : Node.readChildren cs with
  | error f =>
    rw [children] at reads
    have same := answer.symm.trans (alone_of_unread reads)
    rw [Option.some.injEq] at same
    rw [same] at failure
    obtain ⟨c, mem, wrong⟩ := Node.readChildren_error written children
    exact ⟨c, mem, (r, { source := .tree (Node.wrapped c) }), _,
      ⟨⟨fun _ _ => rfl, fun _ => rfl⟩, gives, rfl, rfl⟩, alone_of_unread wrong, failure⟩
  | ok ns =>
    rw [children] at reads
    obtain ⟨y, a, e, run, given, fault, rfl, rfl⟩ := fault_of_failure gives unlimited answer failure
    rw [Request.begun, task_of_no_limit reads unlimited, Request.resolution, Resolution.resolve_compose]
      at run
    -- One of the calls has failed with that beside the others.
    obtain ⟨i, t, z, here, beside, ended⟩ := run.beside_of_fail (fun _ => .succeed _) given fault
    rw [List.getElem?_map, Resolution.getElem?_placed, Option.map_map, Option.map_eq_some_iff] at here
    obtain ⟨n, child, rfl⟩ := here
    obtain ⟨c, call, read⟩ : ∃ c, cs[i]? = some c ∧ Node.read (Node.wrapped c) = .ok n := by
      have pair := forall₂_getElem? ((Node.readChildren_eq_ok_iff written).1 children) i
      rw [child] at pair
      generalize cs[i]? = c at pair
      cases pair with
      | some reads => exact ⟨_, rfl, reads⟩
    have away : Lane.Beside (Lane.begun (Resolution.resolve r n (.of r Registry.rootName .null)
      ([(i : Int)] ++ [])) q.journal) z := beside
    obtain ⟨seen, x, answer', failure'⟩ :=
      fault_by_itself away ended (q := { source := .tree (Node.wrapped c) }) read rfl
    exact ⟨c, List.mem_of_getElem? call, (r.replayed seen, { source := .tree (Node.wrapped c) }), x,
      ⟨r.alike_replayed seen, gives.replayed seen, rfl, rfl⟩, answer', failure'⟩

/-- A successful envelope with what it carries. -/
def carrying (part : Value × List (List String)) : Envelope := .success part.1 part.2

theorem ok_iff (e : Envelope) : e.ok = true ↔ ∃ part, carrying part = e := by
  cases e with
  | success data errors => exact iff_of_true rfl ⟨(data, errors), rfl⟩
  | failure tag message =>
    refine iff_of_false Bool.false_ne_true ?_
    rintro ⟨part, same⟩
    cases same

/-- Responses that tell what each call comes to. -/
theorem forall₂_comes_iff {cs : List Value} {responses : List Response}
    {C : Value → Value × List (List String) → Prop}
    (tell : List.Forall₂ (fun c x => ∀ part, x.envelope = carrying part ↔ C c part) cs responses)
    {parts : List (Value × List (List String))} :
    List.Forall₂ C cs parts ↔ responses.map Response.envelope = parts.map carrying := by
  induction tell generalizing parts with
  | nil => rw [List.forall₂_nil_left_iff, List.map_nil, List.nil_eq, List.map_eq_nil_iff]
  | @cons c x cs responses tells _ ih =>
    cases parts with
    | nil => simp
    | cons part parts =>
      rw [List.forall₂_cons, List.map_cons, List.map_cons, List.cons.injEq, ih, tells]

/-- What each of the calls is answered with by itself, it comes to on the registry of the composition. -/
theorem answered_each {cs : List Value} {own : List (Registry × Request)}
    (each : List.Forall₂ (Asks r answers) cs own) : ∃ responses : List Response,
      List.Forall₂ (fun o x => alone o.1 o.2 = some x) own responses ∧
      List.Forall₂ (fun c x => ∀ part, x.envelope = carrying part ↔ Comes r answers (Node.wrapped c) part)
        cs responses := by
  induction each with
  | nil => exact ⟨[], .nil, .nil⟩
  | @cons c o cs own first _ ih =>
    obtain ⟨responses, alones, tell⟩ := ih
    obtain ⟨x, alone_, tells⟩ := answered_with first.gives first.source first.unlimited
    exact ⟨x :: responses, .cons alone_ alones,
      .cons (fun part => (tells part).trans (comes_congr first.alike)) tell⟩

/-- Responses succeed, all of them, exactly if they carry some data and failures. -/
theorem all_ok_iff {responses : List Response} : (∀ x ∈ responses, x.envelope.ok = true) ↔
    ∃ parts : List (Value × List (List String)), responses.map Response.envelope = parts.map carrying := by
  have range := Set.ext_iff.1 (Set.range_list_map carrying) (responses.map Response.envelope)
  simp only [Set.mem_range, Set.mem_ofPred_eq, List.forall_mem_map, ← ok_iff] at range
  rw [← range]
  exact exists_congr fun parts => eq_comm

/-- **Composition is a homomorphism.** A request for a composition is answered, and so is each request for
one of its calls by itself, on registries with the same types and answers and whatever time these take.
The composition succeeds if and only if all of them do, with their data in a list and their failures one
after the other. If it fails, one of its calls can fail by itself with the same message. -/
theorem compose_homomorphic (gives : r.Gives answers) {cs : List Value}
    (written : ∀ c ∈ cs, Node.isWritten c = true) {q : Request}
    (asks : q.source = .tree (Node.composed cs)) (unlimited : q.limit = .null)
    {own : List (Registry × Request)} (each : List.Forall₂ (Asks r answers) cs own) :
    ∃ (response : Response) (responses : List Response), alone r q = some response ∧
      List.Forall₂ (fun o x => alone o.1 o.2 = some x) own responses ∧
      (response.envelope.ok = true ↔ ∀ x ∈ responses, x.envelope.ok = true) ∧
      (∀ data errors, response.envelope = .success data errors ↔
        ∃ parts : List (Value × List (List String)),
          responses.map Response.envelope = parts.map (fun part => .success part.1 part.2) ∧
            data = .list (parts.map Prod.fst) ∧ errors = parts.flatMap Prod.snd) ∧
      (∀ tag message, response.envelope = .failure tag message →
        ∃ c ∈ cs, ∃ o x, Asks r answers c o ∧ alone o.1 o.2 = some x ∧
          x.envelope = .failure tag message) ∧
      (cs = [] → response.envelope = .success (.list []) []) := by
  obtain ⟨response, answer, comes⟩ := answered_with gives asks unlimited
  obtain ⟨responses, answers_, tell⟩ := answered_each each
  have success (data : Value) (errors : List (List String)) :
      response.envelope = .success data errors ↔ ∃ parts : List (Value × List (List String)),
        responses.map Response.envelope = parts.map carrying ∧
          data = .list (parts.map Prod.fst) ∧ errors = parts.flatMap Prod.snd := by
    rw [comes (data, errors), comes_composed_iff written]
    exact exists_congr fun parts => and_congr_left fun _ => forall₂_comes_iff tell
  refine ⟨response, responses, answer, answers_, ?_, success, ?_, ?_⟩
  · rw [all_ok_iff, ok_iff]
    constructor
    · rintro ⟨part, same⟩
      obtain ⟨parts, whole, -⟩ := (success part.1 part.2).1 same.symm
      exact ⟨parts, whole⟩
    · rintro ⟨parts, whole⟩
      exact ⟨(.list (parts.map Prod.fst), parts.flatMap Prod.snd),
        ((success _ _).2 ⟨parts, whole, rfl, rfl⟩).symm⟩
  · exact fun tag message failure => fault_of_composed gives written asks unlimited answer failure
  · rintro rfl
    cases tell
    exact (success _ _).2 ⟨[], rfl, rfl, rfl⟩

/-- Two names, the second of them in a list, are told together what each is told by itself, whatever
time the first takes. -/
theorem compose_homomorphic_pair : ∃ response,
    alone (pair (.ok (.text "x")) 1)
        { source := .tree (Node.composed [.text "first", .list [.text "second"]]) } = some response ∧
      response.envelope =
        .success (.list [.single "first" (.text "x"), .single "second" (.text "x")]) [] := by
  let first : Request := { source := .tree (.list [.text "first"]) }
  let second : Request := { source := .tree (.list [.text "second"]) }
  let r (pauses : Nat) : Registry := pair (.ok (.text "x")) pauses
  have written : ∀ c ∈ [Value.text "first", .list [.text "second"]], Node.isWritten c = true := by decide
  have asks {c : Value} {q : Request} (pauses : Nat) (source : q.source = .tree (Node.wrapped c))
      (unlimited : q.limit = .null) : Asks (r 1) (fun _ _ _ _ => .ok (.text "x")) c (r pauses, q) :=
    ⟨alike_pair _ 1 pauses, gives_pair _ pauses, source, unlimited⟩
  have each : List.Forall₂ (Asks (r 1) fun _ _ _ _ => .ok (.text "x"))
      [.text "first", .list [.text "second"]] [(r 2, first), (r 0, second)] :=
    .cons (asks 2 rfl rfl) (.cons (asks 0 rfl rfl) .nil)
  obtain ⟨response, responses, answer, alones, -, success, -⟩ :=
    compose_homomorphic (gives_pair (.ok (.text "x")) 1) written
      (q := { source := .tree (Node.composed [.text "first", .list [.text "second"]]) }) rfl rfl each
  refine ⟨response, answer, (success _ _).2
    ⟨[(.single "first" (.text "x"), []), (.single "second" (.text "x"), [])], ?_, rfl, rfl⟩⟩
  have tells (name : String) (x : Response) (j : Journal) (none_ : j.context.failures = [])
      (same : x = Request.response (.ok (.single name (.text "x"))) j) :
      x.envelope = .success (.single name (.text "x")) [] := by
    rw [same, Request.response, Request.envelope, Context.errors_eq_nil none_]
  have ofFirst : alone (r 2) first = _ := alone_eq ⟨3, rfl⟩ (.inl rfl)
  have ofSecond : alone (r 0) second = _ := alone_eq ⟨1, rfl⟩ (.inl rfl)
  cases alones with
  | @cons _ x _ _ one rest =>
    cases rest with
    | @cons _ x' _ _ two rest =>
      cases rest with
      | nil =>
        have one' := Option.some.inj (one.symm.trans ofFirst)
        have two' := Option.some.inj (two.symm.trans ofSecond)
        rw [List.map_cons, List.map_cons, List.map_nil, tells "first" x _ rfl one',
          tells "second" x' _ rfl two']
        rfl

end Execution

end CallTree
