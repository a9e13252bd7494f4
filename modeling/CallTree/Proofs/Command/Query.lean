/-
# CallTree.Proofs.Command.Query — what comes of a call tree on the command line.

With settings that load and the target of a registry, and with no server to be asked (`Surroundings.Local`),
a text is no document, or its call tree is answered by the registry (`Resolves`). What comes out is told by
that alone (`query_exact`): the code is zero exactly if the answer carries data, and what is printed is read
back as the answer.

There is one exception, and it ends the program: data that has a part, at any depth, that no document can
say (`Value.Wordless`). Resolvers of the type `Object` give such data, and the answer is printed without a guard
(`unprinted_document`).
-/
import CallTree.Command
import CallTree.Proofs.Envelope
import CallTree.Proofs.Execution.Envelopes

namespace CallTree

open Value

namespace Command

namespace Surroundings

variable {w : Surroundings} {v : Invocation} {target : String} {url : Option String} {s : Settings}
  {r : Registry}

/-! ## Reports -/

/-- **An answer is reported** as a document, if there is one, with a code that tells whether it carries data. -/
theorem report_toValue (w : Surroundings) (e : Envelope) : w.report e.toValue =
    ((Json.write .report e.toValue).mapError .output).map fun text =>
      w.finish (if e.ok then 0 else 1) (text ++ "\n") := by
  have data : (contains e.toValue (.text "data")).toOption.getD false = e.ok := by
    match e with
    | .success data [] => rfl
    | .success data (_ :: _) => rfl
    | .failure tag message => rfl
  rw [report]
  cases Json.write .report e.toValue with
  | error f => rfl
  | ok text =>
    show Except.ok (w.finish (if (contains e.toValue (.text "data")).toOption.getD false then 0 else 1)
      (text ++ "\n")) = _
    rw [data]
    rfl

/-! ## Queries -/

/-- **A query that is answered here**: settings load, the target is that of a registry, and no server is
named. -/
structure Local (w : Surroundings) (v : Invocation) (target : String) (url : Option String) (s : Settings)
    (r : Registry) : Prop where
  settings : w.loadSettings v = .ok s
  found : Target.find w.modules target = .ok r
  unnamed : given? url = none

/-- The target of a registry is not empty. -/
theorem given_target {modules : Modules} (found : Target.find modules target = .ok r) :
    given? (some target) = some target := by
  by_cases empty : target = ""
  · subst empty
    cases found
  · exact Option.filter_eq_some_iff.2 ⟨rfl, by simpa using empty⟩

/-- The request that a call tree makes. -/
def asked (s : Settings) (tree : Value) : CallTree.Request :=
  { source := .tree tree, limit := s.requestTimeout }

/-- **The answer of a registry to the call tree in a text.** -/
def Resolves (r : Registry) (s : Settings) (text : String) (e : Envelope) : Prop :=
  ∃ tree a, Json.read text = .ok tree ∧ Execution.alone r (asked s tree) = some a ∧ a.envelope = e

/-- A text that is no document is told of, whatever modules there are. -/
theorem query_of_unread (loads : w.loadSettings v = .ok s) {text : String} {f : Json.Fault}
    (unread : Json.read text = .error f) (modules : Modules) :
    { w with modules }.query v (some target) (some text) url =
      .ok (w.finish 1 (errorLine ("call tree is not valid JSON: " ++ f.message))) := by
  have same : { w with modules }.loadSettings v = .ok s := loads
  rw [query, same]
  simp only [bind, Except.bind, unread]
  rfl

/-- An answer is reported. -/
theorem query_of_resolves (here : w.Local v target url s r) {text : String} {e : Envelope}
    (resolves : Resolves r s text e) :
    w.query v (some target) (some text) url = w.report e.toValue := by
  obtain ⟨tree, a, read, answer, rfl⟩ := resolves
  have executed : Execution.alone r { source := .tree tree, limit := s.requestTimeout } = some a := answer
  rw [query, here.settings]
  simp only [bind, Except.bind, read, here.unnamed, given_target here.found]
  simp only [queryLocal, withRegistry, here.found, executed]

/-- **Every call tree is answered** by a registry whose resolvers do not hang. -/
theorem exists_resolves (lively : r.Lively) {text : String} {tree : Value} (read : Json.read text = .ok tree) :
    ∃ e, Resolves r s text e := by
  obtain ⟨a, answer⟩ := Execution.responds (r := r) (q := asked s tree)
    fun _ y _ => Execution.not_hangs lively y.1
  exact ⟨a.envelope, tree, a, read, answer, rfl⟩

/-- A text has one answer at most. -/
theorem Resolves.unique {text : String} {e e' : Envelope} (resolves : Resolves r s text e)
    (resolves' : Resolves r s text e') : e = e' := by
  obtain ⟨tree, a, read, answer, rfl⟩ := resolves
  obtain ⟨tree', a', read', answer', rfl⟩ := resolves'
  cases read.symm.trans read'
  cases answer.symm.trans answer'
  rfl

/-- **An answer of which all can be said** is printed, and what is printed is read back. -/
theorem printed_of_spoken (here : w.Local v target url s r) {text : String} {e : Envelope}
    (resolves : Resolves r s text e)
    (readable : ∀ data errors, e = .success data errors → ∀ part, PartOf part data → part.Readable)
    (spoken : e.toValue.Spoken) : ∃ printed,
      w.query v (some target) (some text) url = .ok (w.finish (if e.ok then 0 else 1) printed) ∧
        Json.read printed = .ok e.toValue.asRead := by
  obtain ⟨document, written⟩ : ∃ document, Json.write .report e.toValue = .ok document :=
    (Json.print_isOk_iff_of_extended rfl).2 spoken
  have spaced : Json.Style.Spaced .report := Json.spaced_of_mem _ (by simp [Json.styles])
  refine ⟨document ++ "\n", ?_, ?_⟩
  · rw [query_of_resolves here resolves, report_toValue, written]
    rfl
  · apply Json.read_of_write spaced (Envelope.readable_toValue readable) written
    · simp [Json.Ends, Json.delimiters]
    · simp [Json.isLayout]

/-- **Data of which a part cannot be said** ends the program. -/
theorem fault_of_not_spoken (here : w.Local v target url s r) {text : String} {data : Value}
    {errors : List (List String)} (resolves : Resolves r s text (.success data errors))
    (unspoken : ¬ data.Spoken) : ∃ part f, PartOf part data ∧ part.Wordless f ∧
      w.query v (some target) (some text) url = .error (.output f) := by
  cases written : Json.write .report (Envelope.success data errors).toValue with
  | ok document =>
    have spoken := Json.spoken_of_print written
    exact absurd (fun part inner => spoken part (Envelope.partOf_success inner errors)) unspoken
  | error f =>
    obtain ⟨part, inside, wordless⟩ := Json.print_error rfl written
    obtain ⟨_, _, success, inner⟩ := Envelope.partOf_data_of_wordless inside wordless
    cases success
    refine ⟨part, f, inner, wordless, ?_⟩
    rw [query_of_resolves here resolves, report_toValue, written]
    rfl

/-- **The code of an outcome** tells whether there is data. -/
theorem code_of_query (here : w.Local v target url s r) (lively : r.Lively) {text : String} {o : Outcome}
    (ran : w.query v (some target) (some text) url = .ok o) : (o.code = 0 ∨ o.code = 1) ∧
      (o.code = 0 ↔ ∃ data errors, Resolves r s text (.success data errors)) := by
  cases read : Json.read text with
  | error f =>
    cases ran.symm.trans (query_of_unread here.settings read w.modules)
    refine ⟨.inr rfl, iff_of_false (by simp [finish]) ?_⟩
    rintro ⟨data, errors, tree, a, reads, -⟩
    cases read.symm.trans reads
  | ok tree =>
    obtain ⟨e, resolves⟩ := exists_resolves (s := s) lively read
    rw [query_of_resolves here resolves, report_toValue, map_eq_ok_iff] at ran
    obtain ⟨document, -, rfl⟩ := ran
    cases e with
    | success data errors => exact ⟨.inl rfl, iff_of_true rfl ⟨data, errors, resolves⟩⟩
    | failure tag message =>
      refine ⟨.inr rfl, iff_of_false (by simp [finish, Envelope.ok]) ?_⟩
      rintro ⟨data, errors, other⟩
      cases other.unique resolves

/-- **The query command, for every text**: with settings that load, the target of a registry whose resolvers
do not hang, and no server to be asked.

A text that is no document is told of, and the code is one. Nothing is asked of any registry for it: the
outcome is the same with whatever modules. The call tree of a document is answered. A failure of the request
as a whole is printed with the code one, and data with the code zero, and what is printed is read back as
the answer; only data of which a part has no words ends the program, with the fault of that part. So the
code, where there is one, is zero or one, and zero exactly if there is data.

Of data it is asked that its floating-point numbers are such as there are. -/
theorem query_exact (here : w.Local v target url s r) (lively : r.Lively) (text : String)
    (readable : ∀ data errors, Resolves r s text (.success data errors) →
      ∀ part, PartOf part data → part.Readable) :
    (∀ f, Json.read text = .error f → ∀ modules : Modules,
      { w with modules }.query v (some target) (some text) url =
        .ok (w.finish 1 (errorLine ("call tree is not valid JSON: " ++ f.message)))) ∧
    (∀ tree, Json.read text = .ok tree → ∃ e, Resolves r s text e) ∧
    (∀ tag message, Resolves r s text (.failure tag message) → ∃ printed,
      w.query v (some target) (some text) url = .ok (w.finish 1 printed) ∧
        Json.read printed = .ok (Envelope.failure tag message).toValue) ∧
    (∀ data errors, Resolves r s text (.success data errors) →
      (data.Spoken → ∃ printed,
        w.query v (some target) (some text) url = .ok (w.finish 0 printed) ∧
          Json.read printed = .ok (Envelope.success data.asRead errors).toValue) ∧
      (¬ data.Spoken → ∃ part f, PartOf part data ∧ part.Wordless f ∧
        w.query v (some target) (some text) url = .error (.output f))) ∧
    (∀ o, w.query v (some target) (some text) url = .ok o → (o.code = 0 ∨ o.code = 1) ∧
      (o.code = 0 ↔ ∃ data errors, Resolves r s text (.success data errors))) := by
  refine ⟨fun f unread modules => query_of_unread here.settings unread modules,
    fun tree read => exists_resolves lively read, ?_, ?_, fun o ran => code_of_query here lively ran⟩
  · intro tag message resolves
    obtain ⟨printed, ran, reads⟩ :=
      printed_of_spoken here resolves nofun (Envelope.spoken_failure tag message)
    rw [Envelope.asRead_failure] at reads
    exact ⟨printed, ran, reads⟩
  · intro data errors resolves
    refine ⟨fun spoken => ?_, fault_of_not_spoken here resolves⟩
    have legible : ∀ data' errors', Envelope.success data errors = .success data' errors' →
        ∀ part, PartOf part data' → part.Readable := by
      rintro _ _ ⟨⟩
      exact readable data errors resolves
    obtain ⟨printed, ran, reads⟩ :=
      printed_of_spoken here resolves legible (Envelope.spoken_success spoken errors)
    rw [Envelope.asRead_success] at reads
    exact ⟨printed, ran, reads⟩

/-! ## Data without words -/

/-- A registry with two queries: one of which all can be said, and one with octets in it. -/
def shelf : Registry :=
  { root := [("note", { name := "note", type := .ofName false "Object"
                        resolve := fun _ _ => .value (.single "title" (.text "list")) }),
             ("scan", { name := "scan", type := .ofName false "Object"
                        resolve := fun _ _ => .value (.single "page" (.octets [255])) })] }

/-- An empty folder, and a module with that registry. -/
def desk : Surroundings where
  folder := []
  env := []
  modules := [("library", [("shelf", .registry shelf)])]
  reply := .failure ""

/-- A command line without options. -/
def plainly : Invocation := { settings := "typegraph.yaml", order := none }

theorem lively_shelf : shelf.Lively := by
  refine Registry.lively_of_root rfl (List.forall_mem_cons.2 ⟨?_, List.forall_mem_singleton.2 ?_⟩)
  · exact fun _ _ => .done _
  · exact fun _ _ => .done _

theorem local_desk : desk.Local plainly "library:shelf" none .default shelf where
  settings := by rfl
  found := by rfl
  unnamed := by rfl

/-- The call tree of one query is read. -/
theorem read_leaf (name : String) :
    Json.read ("[" ++ Json.quoted false name ++ "]") = .ok (.list [.text name]) := by
  have spaced : Json.Style.Spaced .compact := Json.spaced_of_mem _ (by simp [Json.styles])
  have written : Json.write .compact (.list [.text name]) = .ok ("[" ++ Json.quoted false name ++ "]") := by
    simp [Json.write, Json.print, Json.printItems, Json.bracketed, Json.Style.line, Json.Style.compact,
      Except.map]
  have texts : ∀ part, PartOf part (.list [.text name]) → part.Readable := by
    intro part inside
    rcases (partOf_items_iff rfl).1 inside with rfl | ⟨x, mem, inner⟩
    · trivial
    · cases List.mem_singleton.1 mem
      cases inner
      trivial
  have read := @Json.read_of_write _ spaced _ _ texts written "" (by simp [Json.Ends]) (by simp)
  rw [String.append_empty, asRead_of_items rfl] at read
  rw [read]
  simp [asRead]

theorem resolves_note : Resolves shelf .default "[\"note\"]"
    (.success (.single "note" (.single "title" (.text "list"))) []) := by
  have text : "[\"note\"]" = "[" ++ Json.quoted false "note" ++ "]" := by decide +kernel
  refine ⟨_, _, text ▸ read_leaf "note", Execution.alone_eq ⟨1, rfl⟩ (.inl rfl), ?_⟩
  exact congrArg (Envelope.success _) (Context.errors_eq_nil rfl)

theorem resolves_scan : Resolves shelf .default "[\"scan\"]"
    (.success (.single "scan" (.single "page" (.octets [255]))) []) := by
  have text : "[\"scan\"]" = "[" ++ Json.quoted false "scan" ++ "]" := by decide +kernel
  refine ⟨_, _, text ▸ read_leaf "scan", Execution.alone_eq ⟨1, rfl⟩ (.inl rfl), ?_⟩
  exact congrArg (Envelope.success _) (Context.errors_eq_nil rfl)

/-- The note is said with objects and a text. -/
theorem parts_note {part : Value} (h : PartOf part (.single "note" (.single "title" (.text "list")))) :
    (∃ fs, part = .object fs) ∨ ∃ t, part = .text t := by
  rcases partOf_object_iff.1 h with rfl | ⟨_, mem, h⟩
  · exact .inl ⟨_, rfl⟩
  cases List.mem_singleton.1 mem
  rcases partOf_object_iff.1 h with rfl | ⟨_, mem, h⟩
  · exact .inl ⟨_, rfl⟩
  cases List.mem_singleton.1 mem
  cases h
  exact .inr ⟨_, rfl⟩

theorem query_exact_note : ∃ printed,
    desk.query plainly (some "library:shelf") (some "[\"note\"]") none = .ok (desk.finish 0 printed) ∧
      Json.read printed =
        .ok (Envelope.success (.single "note" (.single "title" (.text "list"))) []).toValue := by
  have exact := query_exact local_desk lively_shelf "[\"note\"]" (by
    intro data errors resolves part inside
    cases resolves.unique resolves_note
    rcases parts_note inside with ⟨fs, rfl⟩ | ⟨t, rfl⟩
    · trivial
    · trivial)
  obtain ⟨printed, ran, reads⟩ := (exact.2.2.2.1 _ _ resolves_note).1 (by
    intro part inside f wordless
    rcases parts_note inside with ⟨fs, rfl⟩ | ⟨t, rfl⟩
    · cases wordless
    · cases wordless)
  have kept : (Value.single "note" (.single "title" (.text "list"))).asRead =
      .single "note" (.single "title" (.text "list")) := by rfl
  rw [kept] at reads
  exact ⟨printed, ran, reads⟩

/-- **Data that is no document ends the program.** The registry answers with data, and the command has no
outcome, neither with the code zero nor with the code one. -/
theorem unprinted_document :
    (∃ data errors, Resolves shelf .default "[\"scan\"]" (.success data errors)) ∧
      run desk ["query", "library:shelf", "[\"scan\"]"] = .error (.output (.kind .octets)) := by
  refine ⟨⟨_, _, resolves_scan⟩, ?_⟩
  show desk.query plainly (some "library:shelf") (some "[\"scan\"]") none = _
  rw [query_of_resolves local_desk resolves_scan, report_toValue]
  rfl

end Surroundings

end Command

end CallTree
