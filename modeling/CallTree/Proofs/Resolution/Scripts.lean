/-
# CallTree.Proofs.Resolution.Scripts — what the scripts of resolvers come to.

A resolver as such promises nothing. Two promises are asked for in places: that it does not hang
(`Script.Lively`), and that it always comes to the same, whatever it sees on the way
(`Script.ComesTo`). The second has the first in it.

As part of a request a script is a task; `Script.run_inv` says what that task comes to.
-/
import CallTree.Proofs.Journal
import CallTree.Proofs.Resolution.Calls
import CallTree.Proofs.Table

namespace CallTree

/-! ## Promises -/

/-- **A script that never hangs**, whatever it sees. -/
inductive Script.Lively : Script → Prop where
  | done (outcome : Except Failure Value) : Lively (.done outcome)
  | pause {next : Script} (rest : Lively next) : Lively (.pause next)
  | consult {state : Context → Table Value} {next : Context → Script}
      (rest : ∀ context, Lively (next context)) : Lively (.consult state next)

/-- **A registry of which no resolver hangs.** -/
def Registry.Lively (r : Registry) : Prop :=
  ∀ owner name f, r.field? owner name = some f → ∀ args data, (f.resolve args data).Lively

/-- A registry of queries alone, none of which has a resolver that hangs. -/
theorem Registry.lively_of_root {r : Registry} (untyped : r.types = [])
    (each : ∀ f ∈ r.root, ∀ args data, (f.2.resolve args data).Lively) : r.Lively := by
  intro owner name f found args data
  rw [Registry.field?, Registry.chunk?, untyped] at found
  split at found
  · exact each _ (Table.mem_of_get? found) args data
  · cases found

/-- **What a script comes to**, whatever it sees and however often it lets others run. -/
inductive Script.ComesTo (outcome : Except Failure Value) : Script → Prop where
  | done : ComesTo outcome (.done outcome)
  | pause {next : Script} (rest : ComesTo outcome next) : ComesTo outcome (.pause next)
  | consult {state : Context → Table Value} {next : Context → Script}
      (rest : ∀ context, ComesTo outcome (next context)) : ComesTo outcome (.consult state next)

/-- What resolvers come to: by owner, field, arguments, and the value above. -/
abbrev Answers := String → String → Table Value → Value → Except Failure Value

/-- **Resolvers that depend on nothing but their arguments and the value above**, and do not hang: each
comes to its answer. How often its calls let others run is left open. It may differ from call to call,
since a script can keep count in its context. -/
def Registry.Gives (r : Registry) (answers : Answers) : Prop :=
  ∀ owner name f, r.field? owner name = some f → ∀ args data,
    (f.resolve args data).ComesTo (answers owner name args data)

theorem Script.ComesTo.lively {s : Script} {outcome : Except Failure Value}
    (h : s.ComesTo outcome) : s.Lively := by
  induction h with
  | done => exact .done outcome
  | pause _ ih => exact .pause ih
  | consult _ ih => exact .consult ih

theorem Registry.Gives.lively {r : Registry} {answers : Answers} (h : r.Gives answers) : r.Lively :=
  fun owner name f found args data => (h owner name f found args data).lively

theorem Script.comesTo_pauses (n : Nat) (outcome : Except Failure Value) :
    (Script.pauses n (.done outcome)).ComesTo outcome := by
  induction n with
  | zero => exact .done
  | succ n ih => exact .pause ih

/-! ## Registries made of answers -/

namespace Answers

/-- Fields of given types that give answers, each after letting others run so many times. -/
def chunk (answers : Answers) (pauses : String → Nat) (owner : String) (types : Table Descriptor) :
    Chunk :=
  types.map fun t =>
    (t.1,
      { name := t.1
        type := t.2
        resolve := fun args data => .pauses (pauses t.1) (.done (answers owner t.1 args data)) })

/-- **The registry of given types that gives answers.** -/
def registry (answers : Answers) (pauses : String → Nat) (types : Table (Table Descriptor))
    (root : Table Descriptor) : Registry where
  types := types.map fun t => (t.1, answers.chunk pauses t.1 t.2)
  root := answers.chunk pauses Registry.rootName root

variable {answers : Answers} {pauses : String → Nat} {types : Table (Table Descriptor)}
variable {root : Table Descriptor}

theorem get?_chunk (owner name : String) (fields : Table Descriptor) :
    (answers.chunk pauses owner fields).get? name = (fields.get? name).map fun type =>
      { name, type
        resolve := fun args data => .pauses (pauses name) (.done (answers owner name args data)) } :=
  Table.get?_mapEntries (fun name type => ({
      name, type
      resolve := fun args data =>
        .pauses (pauses name) (.done (answers owner name args data)) } : Field)) fields name

/-- The fields of a registry made of answers. -/
theorem field?_registry (owner name : String) :
    (answers.registry pauses types root).field? owner name =
      (((if owner = Registry.rootName then some root else types.get? owner).getD []).get? name).map
        fun type =>
          { name, type
            resolve := fun args data =>
              .pauses (pauses name) (.done (answers owner name args data)) } := by
  unfold Registry.field? Registry.chunk?
  split
  · rename_i same
    rw [same]
    exact get?_chunk _ name root
  · have chunk := Table.get?_mapEntries (answers.chunk pauses) types owner
    rw [registry, chunk]
    cases types.get? owner with
    | none => rfl
    | some fields => exact get?_chunk owner name fields

theorem gives_registry : (answers.registry pauses types root).Gives answers := by
  intro owner name f found args data
  rw [field?_registry, Option.map_eq_some_iff] at found
  obtain ⟨type, -, rfl⟩ := found
  exact Script.comesTo_pauses _ _

end Answers

/-! ## Scripts as tasks -/

/-- **What the script of a call leads to**: it comes to some outcome, which is logged, and it goes on
with that. If it has to come to something, this is it. -/
theorem Script.run_inv {s : Script} {call : Call} {next : Except Failure Value → Work}
    {outcome : Except Abort Value} {updates : List (Journal → Journal)}
    (ends : (s.run call next).Ends outcome updates) :
    ∃ result later, (next result).Ends outcome later ∧
      Journal.written updates = .ended call result :: Journal.written later ∧
      ∀ expected, s.ComesTo expected → result = expected := by
  induction s generalizing updates with
  | done result =>
    cases ends with
    | act seen rest =>
      refine ⟨result, _, rest, rfl, ?_⟩
      intro expected comes
      cases comes with
      | done => rfl
  | pause next ih =>
    cases ends with
    | pause rest =>
      obtain ⟨result, later, goesOn, same, only⟩ := ih rest
      refine ⟨result, later, goesOn, same, ?_⟩
      intro expected comes
      cases comes with
      | pause rest => exact only expected rest
  | hang => cases ends
  | consult state next ih =>
    cases ends with
    | act seen rest =>
      obtain ⟨result, later, goesOn, same, only⟩ := ih seen.context rest
      refine ⟨result, later, goesOn, ?_, ?_⟩
      · rw [Journal.written_setState, same]
      · intro expected comes
        cases comes with
        | consult rest => exact only expected (rest _)

/-- **What a call leads to**: it starts, comes to some outcome, and goes on with that. -/
theorem Script.call_inv {s : Script} {call : Call} {next : Except Failure Value → Work}
    {outcome : Except Abort Value} {updates : List (Journal → Journal)}
    (ends : (Task.act (·.start call) fun _ => s.run call next : Work).Ends outcome updates) :
    ∃ result later, (next result).Ends outcome later ∧
      Journal.written updates = .started call :: .ended call result :: Journal.written later ∧
      ∀ expected, s.ComesTo expected → result = expected := by
  cases ends with
  | act seen rest =>
    obtain ⟨result, later, goesOn, same, only⟩ := run_inv rest
    exact ⟨result, later, goesOn, by rw [Journal.written_start, same], only⟩

end CallTree
