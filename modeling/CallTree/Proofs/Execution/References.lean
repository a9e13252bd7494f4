/-
# CallTree.Proofs.Execution.References — types that are looked up are there.

The type of a field is looked up to resolve the children of a call on what its resolver has returned.
Before the resolver runs it has been checked that the type is declared, so the lookup finds it, whether
or not references were checked when the registry was built. That a type is not declared is only ever
said in the place of a call, and never of a registry of which the references have been checked
(`Execution.references_sound`).
-/
import CallTree.Proofs.Execution.Envelopes
import CallTree.Proofs.Execution.Soundness
import CallTree.Proofs.Registry.References

namespace CallTree

namespace Execution

open Journal

variable {r : Registry} {q : Request} {j : Journal}

/-- **A type is looked up** at a moment of a request: a resolver has returned a value for a field of the
type, which passes its check and is not null. -/
inductive LooksUp (r : Registry) (j : Journal) : String → Prop where
  | intro {c : Call} {v : Value} {f : Field} (returned : .ended c (.ok v) ∈ j.history)
      (found : r.field? c.owner c.field = some f) (custom : f.type.isNative = false)
      (passes : Check.customResult f.type true v = .ok ()) (present : v ≠ .null) :
      LooksUp r j f.type.name

/-- Where something has happened, the call tree has been read. -/
theorem Moment.exists_read (moment : Moment r q j) {e : Event} (mem : e ∈ j.history) :
    ∃ n, q.source.read = .ok n := by
  cases asks : q.source.read with
  | error f =>
    rw [moment.unread asks] at mem
    cases mem
  | ok n => exact ⟨n, rfl⟩

/-- **A call that has been made** is of a field of which the type is declared. -/
theorem Moment.declares (moment : Moment r q j) {c : Call} (made : c ∈ j.calls) :
    r.Declares c.owner c.field := by
  rw [calls_eq] at made
  obtain ⟨event, mem, same⟩ := List.mem_filterMap.1 made
  obtain ⟨n, asks⟩ := moment.exists_read mem
  cases event with
  | ended _ _ => cases same
  | started c' =>
    cases same
    obtain ⟨before, rest, starts⟩ := List.append_of_mem mem
    obtain ⟨s, planned, rfl, -⟩ := (moment.seen asks).keeps.ordered before c rest starts
    exact (Unfolding.given_unfold n _ _ _ s planned).declared

/-- A call that has ended has been made. -/
theorem Moment.made_of_ended (moment : Moment r q j) {c : Call} {outcome : Except Failure Value}
    (ended : .ended c outcome ∈ j.history) : c ∈ j.calls := by
  obtain ⟨n, asks⟩ := moment.exists_read ended
  obtain ⟨left, accounts⟩ := (moment.seen asks).accounts
  rw [calls_eq]
  exact accounts.perm.mem_iff.2 (List.mem_append_left _ (mem_endedIn.2 ⟨outcome, ended⟩))

/-- **Where a request is answered that a type is not declared**, its tree has met a field of that type. -/
theorem undeclared_of_answer {response : Response} {name : String}
    (answer : alone r q = some response)
    (said : response.envelope = .failure Envelope.processingTag (Registry.undefinedMessage name)) :
    ∃ owner call f j, r.field? owner call = some f ∧ f.type.isNative = false ∧ f.type.name = name ∧
      r.hasType name = false ∧ Moment r q j ∧ response.calls = j.calls ∧
      Aborts r q j (.result call (.undefinedType name)) := by
  cases ended : journal r q with
  | none =>
    -- Nothing is left to run, so the answer is that the time limit is up.
    rcases alone_inv answer with ⟨_, _, -, journaled, -⟩ | ⟨x, j, -, rfl⟩
    · rw [ended] at journaled
      cases journaled
    · exact absurd (Envelope.failure.inj said).2 (elapsedMessage_ne_undefined x name)
  | some j =>
    have moment := moment_journal ended
    obtain ⟨outcome, updates, stands, rfl, answer'⟩ := journal_inv ended
    cases answer.symm.trans answer'
    cases outcome with
    | ok v => cases said
    | error e =>
      have message : e.message = Registry.undefinedMessage name := (Envelope.failure.inj said).2
      have aborts := aborts_of_error stands answer
      rcases Request.error_of_stands stands with
        ⟨f, -, rfl⟩ | ⟨n, -, ⟨-, ⟨f, -, rfl⟩ | ⟨x, -, -, rfl⟩⟩ | met⟩
      · exact absurd message (f.plain.2 name)
      · exact absurd message (f.plain.2 name)
      · exact absurd message (elapsedMessage_ne_undefined x name)
      · obtain ⟨owner, call, f, found, custom, same, missing, rfl⟩ :=
          (Unfolding.explains_unfold n _ _ _ e met).undeclared_of_message message
        exact ⟨owner, call, f, _, found, custom, same, missing, moment, rfl, aborts⟩

/-- **References.** Whatever a request asks for, and however resolvers behave: a type that is looked up
is declared and found as itself, never as the queries. No request fails because a type is not declared
if references were checked when the registry was built. If they were not, it is aborted for a call of a
field of such a type, and the resolver of that field has not been called. -/
theorem references_sound {check : Bool} (made : r.Made check) (q : Request) :
    (∀ j name, Moment r q j → LooksUp r j name → name ≠ Registry.rootName ∧
      ∃ chunk, r.types.get? name = some chunk ∧ r.chunk? name = some chunk) ∧
    (check = true → ∀ response name, alone r q = some response →
      response.envelope ≠ .failure Envelope.processingTag (Registry.undefinedMessage name)) ∧
    ∀ response name, alone r q = some response →
      response.envelope = .failure Envelope.processingTag (Registry.undefinedMessage name) →
      ∃ owner call f j, r.field? owner call = some f ∧ f.type.isNative = false ∧
        f.type.name = name ∧ r.hasType name = false ∧ Moment r q j ∧ response.calls = j.calls ∧
        Aborts r q j (.result call (.undefinedType name)) ∧
        ∀ c ∈ response.calls, ¬ (c.owner = owner ∧ c.field = call) := by
  have undeclared {owner call : String} {f : Field} (found : r.field? owner call = some f)
      (custom : f.type.isNative = false) (missing : r.hasType f.type.name = false) :
      ¬ r.Declares owner call := fun declares => by
    rw [declares f found custom] at missing
    cases missing
  refine ⟨?_, ?_, ?_⟩
  · rintro j _ moment ⟨returned, found, custom, -, -⟩
    have started := moment.made_of_ended returned
    exact made.chunk?_of_hasType (moment.declares started _ found custom)
  · rintro rfl response name answer said
    obtain ⟨owner, call, f, j, found, custom, rfl, missing, -⟩ := undeclared_of_answer answer said
    exact undeclared found custom missing (made.declares owner call)
  · intro response name answer said
    obtain ⟨owner, call, f, j, found, custom, rfl, missing, moment, calls, aborts⟩ :=
      undeclared_of_answer answer said
    refine ⟨owner, call, f, j, found, custom, rfl, missing, moment, calls, aborts, ?_⟩
    rintro c mem ⟨rfl, rfl⟩
    rw [calls] at mem
    exact undeclared found custom missing (moment.declares mem)

/-- Two queries of types that nobody declares. The second is ready-made: the name of its type is that of
a native one, but is not marked as such. -/
def haunted : List Registry.Draft.Addition := [
  .query (.text "ghost") { type := .text "Ghost", resolve := some (Example.required "ghost") },
  .ready (.text Registry.rootName) "shade"
    { name := "shade", type := { name := "String" }, resolve := Example.required "shade" }]

/-- A request for the second. -/
def shade : Request := { source := .call (.mk "shade" none [.leaf "name"]) }

/-- The first query, of a type that is declared and has a field. -/
def settled : List Registry.Draft.Addition := [
  .type (.text "Ghost"),
  .field (.text "Ghost") (.text "name") { type := .text "String!", resolve := some (Example.required "name") },
  .query (.text "ghost")
    { type := .text "Ghost", resolve := some fun _ _ => .value (.single "name" (.text "Ann")) }]

/-- A request for it. -/
def ghost : Request := { source := .call (.mk "ghost" none [.leaf "name"]) }

/-- A registry with checked references answers for its types. Without the check, the type that is missing is
told of. -/
theorem references_sound_shade : (∃ r response,
    (Registry.Draft.after settled).build true = .ok r ∧ alone r ghost = some response ∧
    (∃ j chunk, Moment r ghost j ∧ LooksUp r j "Ghost" ∧ r.chunk? "Ghost" = some chunk) ∧
    ∀ name, response.envelope ≠ .failure Envelope.processingTag (Registry.undefinedMessage name)) ∧
    ∃ r response,
    (Registry.Draft.after haunted).build true = .error (.undefinedType "Root" "ghost" "Ghost") ∧
    (Registry.Draft.after haunted).build false = .ok r ∧ alone r shade = some response ∧
    response.envelope = .failure Envelope.processingTag (Registry.undefinedMessage "String") ∧
    ∃ call j, response.calls = j.calls ∧
      Aborts r shade j (.result call (.undefinedType "String")) := by
  constructor
  · let r : Registry := ⟨(Registry.Draft.after settled).types, (Registry.Draft.after settled).root⟩
    have built : (Registry.Draft.after settled).build true = .ok r := rfl
    have answer : alone r ghost = some (Request.response
        (.ok (.single "ghost" (.single "name" (.text "Ann")))) _) := alone_eq ⟨4, rfl⟩ (.inl rfl)
    obtain ⟨found, declared, -⟩ := references_sound (.build built) ghost
    -- After the first turn the resolver has returned, and its type is looked up for the field below.
    have moment : Moment r ghost (Lane.turn (ghost.begun r)).1.state := ⟨_, .turn _, rfl⟩
    have returned : .ended ⟨"Root", "ghost", [], [], .null⟩ (.ok (.single "name" (.text "Ann"))) ∈
        (Lane.turn (ghost.begun r)).1.state.history := .tail _ (.head _)
    have present : Value.single "name" (.text "Ann") ≠ .null := fun absent => by cases absent
    have looked : LooksUp r (Lane.turn (ghost.begun r)).1.state "Ghost" :=
      @LooksUp.intro r _ _ _ { name := "ghost", type := .ofName false "Ghost"
                               resolve := fun _ _ => .value (.single "name" (.text "Ann")) }
        returned rfl rfl rfl present
    obtain ⟨-, chunk, -, here⟩ := found _ _ moment looked
    exact ⟨r, _, built, answer, ⟨_, chunk, moment, looked, here⟩, fun name => declared rfl _ name answer⟩
  · have built : (Registry.Draft.after haunted).build false =
        .ok ⟨(Registry.Draft.after haunted).types, (Registry.Draft.after haunted).root⟩ := rfl
    have answer := alone_of_fail (q := shade)
      (r := ⟨(Registry.Draft.after haunted).types, (Registry.Draft.after haunted).root⟩)
      (e := .result "shade" (.undefinedType "String")) rfl
    obtain ⟨-, -, failures⟩ := references_sound (.build built) shade
    obtain ⟨_, call, _, j, -, -, -, -, -, calls, aborts, -⟩ := failures _ "String" answer rfl
    exact ⟨_, _, rfl, built, answer, rfl, call, j, calls, aborts⟩

end Execution

end CallTree
