/-
# CallTree.Proofs.Execution.Locality — failures stay where they are.

Let one field of a registry fail on some inputs on which it used to return. A request that succeeded
before still succeeds (`Execution.failure_local`), and its answer differs only at the struck calls and
below: what these had is null, and each outermost one has an entry in the failure log. It does not
matter how a resolver fails, nor when; a time limit that nothing runs into does not matter either.
-/
import CallTree.Proofs.Execution.Schedules
import CallTree.Proofs.Sequential.Survival

namespace CallTree

namespace Execution

open CallTree.Sequential

variable {r r' : Registry} {answers : Answers} {q : Request} {n : Node}

/-- A success tells of the sequential evaluation: the same value, and the same calls in some order. -/
theorem survey_of_success {data : Value} {errors : List (List String)} {calls : List Call}
    (gives : r.Gives answers) (asks : q.source.read = .ok n)
    (success : alone r q = some ⟨.success data errors, calls⟩) :
    ∃ j own, journal r q = some j ∧ calls = j.calls ∧
      errors = Context.reports (Journal.failures j.history) ∧ j.history.Perm own ∧
      survey r answers n = .ok (data, own) := by
  rcases alone_inv success with ⟨outcome, updates, ends, journaled, same⟩ | ⟨_, _, _, same⟩
  · cases outcome with
    | error e => cases same
    | ok v =>
      cases same
      obtain ⟨own, found, perm, errors⟩ := survey_of_ends gives asks ends
      exact ⟨_, own, journaled, rfl, errors, perm, found⟩
  · cases same

/-- No call is above the position of the whole request. -/
theorem covers_nil (o : Outage) (calls : List Call) : o.covers calls [] = false := by
  apply Bool.eq_false_iff.2
  intro covered
  obtain ⟨c, -, -, above⟩ := covers_iff.1 covered
  exact above.2 (List.prefix_nil.1 above.1)

/-- **Locality of failures.** Let the resolver of one field fail on inputs on which it used to return. A
request for a plain call tree that succeeded before succeeds under this outage: its data is the old
data with null for the outermost struck calls, and its failures are the old ones that are not below a
struck call, with one for each of these, in the order of their positions. -/
theorem failure_local {o : Outage} {data : Value} {errors : List (List String)} {calls : List Call}
    (gives : r.Gives answers) (gives' : r'.Gives (o.answers answers)) (alike : r.Alike r')
    (returned : ∀ args data, o.struck args data = true → ∃ v, answers o.owner o.field args data = .ok v)
    (asks : q.source.read = .ok n) (plain : n.Plain) (patient : q.Patient)
    (success : alone r q = some ⟨.success data errors, calls⟩) :
    ∃ j calls', journal r q = some j ∧ calls = j.calls ∧
      errors = Context.reports (Journal.failures j.history) ∧
      alone r' q = some ⟨.success (blank (o.hits calls) n [] data)
        (Context.reports (o.log calls j.history)), calls'⟩ := by
  -- Before the outage, the journal has the calls of the evaluation in some order.
  obtain ⟨j, own, journaled, rfl, told, perm, surveyed⟩ := survey_of_success gives asks success
  have told' : Told j.calls [] own := fun c => by
    rw [Journal.calls_eq, (Journal.startedIn_perm perm).mem_iff]
    exact ⟨fun mem => ⟨mem, List.nil_prefix⟩, fun h => h.1⟩
  have survives : Survives .all r r' answers o j.calls n := survives_evaluate plain alike returned
  obtain ⟨log, found, same⟩ := survives _ _ _ _ surveyed told' (covers_nil o j.calls)
  -- Under it, the request is answered, and the evaluation says with what.
  obtain ⟨⟨envelope, calls'⟩, answer, fits⟩ := fits_alone gives' asks patient
  have found' : sequential r' (o.answers answers) n = _ := evaluate_blame .first found
  have order := same.trans (log_perm perm.symm)
  rw [Fits, found'] at fits
  refine ⟨j, calls', journaled, rfl, told, ?_⟩
  rw [reports_of_survey found order.symm, ← fits]
  exact answer

/-! ## A circle of friends -/

/-- A person by a name and friends. -/
def person (name : String) (friends : List Value) : Value :=
  .object [("name", .text name), ("friends", .list friends)]

/-- The viewer is Sam. Of a person, the name and the friends can be told, but not the age. -/
def circle : Answers := fun owner name _ data =>
  if owner = Registry.rootName then
    .ok (person "Sam" [person "Ann" [person "Cid" []], person "Bob" []])
  else if name = "age" then .error ⟨"KeyError", "age"⟩
  else .ok ((data.fields.get? name).getD .null)

/-- A registry of people, in which the friends of a person are required. -/
def people (answers : Answers) (pauses : String → Nat) : Registry :=
  answers.registry pauses
    [("Person", [("name", .ofName false "String"), ("age", .ofName false "Number"),
      ("friends", .ofName true "Person!")])]
    [("viewer", .ofName false "Person!")]

theorem gives_people (answers : Answers) (pauses : String → Nat) :
    (people answers pauses).Gives answers :=
  Answers.gives_registry

theorem alike_people (answers answers' : Answers) (pauses pauses' : String → Nat) :
    (people answers pauses).Alike (people answers' pauses') :=
  Answers.alike_registry ..

/-- The friends of Ann cannot be told. -/
def estranged : Outage where
  owner := "Person"
  field := "friends"
  struck _ data := match data.fields.get? "name" with
    | some (.text name) => name = "Ann"
    | _ => false
  failure _ _ := ⟨"TimeoutError", ""⟩

/-- The call tree for the friends of the viewer, and theirs. -/
def circleNode : Node :=
  .mk "viewer" none [.leaf "name",
    .mk "friends" none [.leaf "name", .mk "friends" none [.leaf "name", .leaf "age"]]]

/-- A request for it. -/
def circleRequest : Request := { source := .call circleNode }

/-- What is known of the circle, with what is told of the friends of Ann. -/
def circled (ofAnn : Value) : Value :=
  .single "viewer" (.object [("name", .text "Sam"),
    ("friends", .list [.object [("name", .text "Ann"), ("friends", ofAnn)],
      .object [("name", .text "Bob"), ("friends", .list [])]])])

theorem plain_circle : circleNode.Plain := by
  have leaf (name : String) (noWhen : name ≠ Node.whenName) : (Node.leaf name).Plain :=
    .mk noWhen (fun _ => .nil) nofun
  have friends : (Node.mk "friends" none [.leaf "name", .leaf "age"]).Plain :=
    .mk (by decide) (fun _ => by decide) (by simp [leaf "name" (by decide), leaf "age" (by decide)])
  have both : (Node.mk "friends" none
      [.leaf "name", .mk "friends" none [.leaf "name", .leaf "age"]]).Plain :=
    .mk (by decide) (fun _ => by decide) (by simp [leaf "name" (by decide), friends])
  exact .mk (by decide) (fun _ => by decide) (by simp [leaf "name" (by decide), both])

theorem success_circle : ∃ calls, alone (people circle fun _ => 0) circleRequest =
    some ⟨.success (circled (.list [.object [("name", .text "Cid"), ("age", .null)]]))
      [["age", "age"]], calls⟩ := by
  have answer : alone (people circle fun _ => 0) circleRequest = _ := alone_eq ⟨29, rfl⟩ (.inl rfl)
  obtain ⟨j, same, one⟩ : ∃ j, alone (people circle fun _ => 0) circleRequest =
      some (Request.response
        (.ok (circled (.list [.object [("name", .text "Cid"), ("age", .null)]]))) j) ∧
        j.context.failures = [⟨[1, 0, 1, 0, 1], "age", "age"⟩] :=
    ⟨_, answer.trans rfl, rfl⟩
  refine ⟨j.calls, ?_⟩
  rw [same, Request.response, Request.envelope, Context.errors_eq, one, Context.reports_singleton]

theorem journal_circle : ∃ j, journal (people circle fun _ => 0) circleRequest = some j ∧
    blank (estranged.hits j.calls) circleNode []
      (circled (.list [.object [("name", .text "Cid"), ("age", .null)]])) = circled .null ∧
    estranged.log j.calls j.history = [⟨[1, 0, 1], "friends", "TimeoutError"⟩] :=
  ⟨_, journal_eq ⟨29, rfl⟩ (.inl rfl), rfl, rfl⟩

theorem returned_circle (args : Table Value) (data : Value) (_ : estranged.struck args data = true) :
    ∃ v, circle estranged.owner estranged.field args data = .ok v :=
  ⟨_, rfl⟩

theorem failure_local_circle :
    ∃ calls, alone (people (estranged.answers circle) fun _ => 1) circleRequest =
      some ⟨.success (circled .null) [["friends", "TimeoutError"]], calls⟩ := by
  obtain ⟨calls, success⟩ := success_circle
  obtain ⟨j, journaled, gaps, log⟩ := journal_circle
  obtain ⟨j', calls', journaled', rfl, -, answer⟩ :=
    failure_local (gives_people _ _) (gives_people _ fun _ => 1) (alike_people ..) returned_circle rfl
      plain_circle (.inl rfl) success
  rw [journaled, Option.some.injEq] at journaled'
  subst journaled'
  rw [gaps, log, Context.reports_singleton] at answer
  exact ⟨calls', answer⟩

end Execution

end CallTree
