/-
# CallTree.Proofs.Http.Server — what a server answers to call trees.

A call tree comes in the query of a GET or in the body of a POST (`Way`). On a registry whose resolvers
do not hang, each is answered (`Server.answers_every_payload`): with the answer to the call tree as a document, or
else with a document that tells of an error. The latter happens for two reasons and no other
(`Server.Refused`): the payload carries no call tree, or the answer has a part, at any depth, that no
document can say. That a request reaches its answer is up to the framework, of which two laws are asked
(`Framework.Lawful`).
-/
import CallTree.Http.Server
import CallTree.Proofs.Envelope
import CallTree.Proofs.Execution.Envelopes
import CallTree.Proofs.Json.Printer
import CallTree.Proofs.Payload

namespace CallTree.Http

/-! ## Responses -/

/-- **A response that tells of an error**, in a document that says nothing else. -/
structure Tells (response : Response) (message : String) : Prop where
  status : response.status = 500
  type : response.contentType = some jsonType
  body : Json.write .compact (.single "error" (.text message)) = .ok response.body

theorem respond_of_ok {status : Nat} {v : Value} {body : String}
    (h : Json.write .compact v = .ok body) :
    respond status v = { status, contentType := some jsonType, body } := by
  rw [respond, h]

/-- A value that cannot be written is told of. -/
theorem tells_respond {status : Nat} {v : Value} {f : Json.PrintFault}
    (h : Json.write .compact v = .error f) : Tells (respond status v) f.message := by
  rw [respond, h]
  refine ⟨rfl, rfl, ?_⟩
  have front : "\x7b" ++ (Json.quoted false "error" ++ ":") = "\x7b\"error\":" := by decide
  rw [Json.write_single_text, ← String.append_assoc, front]

theorem tells_failure (message : String) : Tells (failure message) message := by
  have written := Json.write_single_text "error" message
  rw [failure, respond_of_ok written]
  exact ⟨rfl, rfl, written⟩

/-! ## Frameworks -/

/-- **What is asked of a framework**: the first route that fits path and method answers; and where origins can
be looked up, what is answered to any method but OPTIONS is passed on, with an origin that is allowed or
without. -/
structure Framework.Lawful (F : Framework) : Prop where
  first {E : Type} {routes : List (Route F.Template E)} {r : Route F.Template E} {q : Request}
    (found : routes.find? (fun r => F.fits r.path q.path && r.methods.contains q.method) = some r) :
    F.dispatch routes q = r.answer q
  passes {E : Type} {origins : Value} {inner : Request → Except E (Option Response)} {q : Request}
    {response : Response} (usable : F.check origins = .ok ()) (other : q.method ≠ "OPTIONS")
    (answered : inner q = .ok (some response)) :
    ∃ origin, F.serve origins inner q = .ok (some { response with allowOrigin := origin })

theorem firstRoute_of_find? {E : Type} {routes : List (Route Template E)} {r : Route Template E} {q : Request}
    (found : routes.find? (fun r => r.path.fits q.path && r.methods.contains q.method) = some r) :
    Framework.firstRoute routes q = r.answer q := by
  have same : (routes.filter (·.path.fits q.path)).find? (·.methods.contains q.method) = some r := by
    rw [List.find?_filter, ← found]
    congr 1
    funext r
    rw [Bool.decide_and, Bool.decide_eq_true, Bool.decide_eq_true]
  rw [Framework.firstRoute, same]

/-- The usual framework keeps the laws. -/
theorem Framework.lawful_usual : Framework.usual.Lawful where
  first found := firstRoute_of_find? found
  passes {_ origins inner q response} _ other answered := by
    show ∃ origin, Cors.Policy.serve { origins } inner q = _
    unfold Cors.Policy.serve
    split
    · exact ⟨response.allowOrigin, answered⟩
    · split
      · rename_i options _
        exact absurd options other
      · rw [answered]
        exact ⟨_, rfl⟩

/-! ## Call trees that come -/

/-- **The two ways in which call trees come.** -/
inductive Way where
  | query
  | body

/-- The method of a way. -/
def Way.method : Way → String
  | .query => "GET"
  | .body => "POST"

/-- Where the payload of a request is. -/
def Request.carrier (q : Request) : Way → Payload.Carrier
  | .query => .query (queryValue? q.query treeField)
  | .body => .body q.body

theorem decode_query (q : Request) : (q.carrier .query).decode = Server.queryTree q := by
  rw [Request.carrier, Server.queryTree]
  cases queryValue? q.query treeField <;> rfl

namespace Server

variable {F : Framework}

/-- The call tree of a request, to be executed. -/
def asked (s : Server F) (q : Request) (tree : Value) : CallTree.Request :=
  { source := .tree tree, inbound := q.inbound, limit := s.settings.requestTimeout }

/-- What is answered to the call tree of a request. -/
def answer (s : Server F) (q : Request) (way : Way) : Option Response :=
  s.answerTree q (q.carrier way).decode

/-- **A request for call trees**: it comes by one of the ways, and to their path. The pages about the
server itself go before them. -/
structure Serves (s : Server F) (q : Request) (way : Way) : Prop where
  method : q.method = way.method
  path : F.fits s.path q.path = true
  free : way = .query → ∀ page ∈ ownPages, F.fits (F.ofPath page) q.path = false

/-- The routes for call trees come right after the pages about the server itself. -/
theorem routes_eq (s : Server F) : ∃ (page : String → Route F.Template (Fault F))
    (after : List (Route F.Template (Fault F))),
    (∀ p, (page p).path = F.ofPath p ∧ (page p).methods = ["GET", "HEAD"]) ∧
      s.routes = ownPages.map page ++
        { path := s.path, methods := ["GET"]
          answer := fun q => .ok (s.answerTree q (queryTree q)) } ::
        { path := s.path, methods := ["POST"]
          answer := fun q => .ok (s.answerTree q (Payload.decodeBody q.body)) } :: after := by
  rw [routes, List.append_assoc, List.append_assoc]
  exact ⟨_, _, fun p => ⟨rfl, rfl⟩, rfl⟩

/-- **A request for call trees is answered by the route for its way.** -/
theorem dispatch_eq (lawful : F.Lawful) {s : Server F} {q : Request} {way : Way} (h : s.Serves q way) :
    F.dispatch s.routes q = .ok (s.answer q way) := by
  obtain ⟨page, after, own, split⟩ := s.routes_eq
  -- No page about the server itself is in the way: none has the path, or none has the method.
  have apart : (ownPages.map page).find?
      (fun r => F.fits r.path q.path && r.methods.contains q.method) = none := by
    rw [List.find?_eq_none]
    rintro r mem fits
    obtain ⟨p, at_, rfl⟩ := List.mem_map.1 mem
    rw [(own p).1, (own p).2, h.method, Bool.and_eq_true] at fits
    cases way with
    | query => exact absurd fits.1 (ne_true_of_eq_false (h.free rfl p at_))
    | body => exact absurd fits.2 (by decide)
  cases way with
  | query =>
    rw [answer, decode_query]
    apply lawful.first (r := ⟨s.path, ["GET"], fun q => .ok (s.answerTree q (queryTree q))⟩)
    rw [split, List.find?_append, apart, Option.none_or, List.find?_cons_of_pos]
    simp [h.path, h.method, Way.method]
  | body =>
    apply lawful.first
      (r := ⟨s.path, ["POST"], fun q => .ok (s.answerTree q (Payload.decodeBody q.body))⟩)
    rw [split, List.find?_append, apart, Option.none_or, List.find?_cons_of_neg,
      List.find?_cons_of_pos]
    · simp [h.path, h.method, Way.method]
    · simp [h.path, h.method, Way.method]

/-- A server with origins that can be looked up adds the one that it allows, and nothing else. -/
theorem handle_eq (lawful : F.Lawful) {s : Server F} {q : Request} {way : Way} (h : s.Serves q way)
    (usable : F.check s.settings.corsOrigins = .ok ())
    {response : Response} (answer : s.answer q way = some response) :
    ∃ origin, s.handle q = .ok (some { response with allowOrigin := origin }) := by
  have dispatched := dispatch_eq lawful h
  rw [answer] at dispatched
  have other : q.method ≠ "OPTIONS" := by
    rw [h.method]
    cases way <;> decide
  rw [handle, usable]
  exact lawful.passes usable other dispatched

/-! ## Answers -/

/-- **Why the answer to a call tree is not sent**: there is none in the request, or the answer has a
part, at any depth, that no document can say. -/
inductive Refused (s : Server F) (q : Request) (way : Way) : Prop where
  | payload (faulty : (q.carrier way).Faulty)
  | answer {tree w : Value} {a : CallTree.Response} (holds : (q.carrier way).Holds tree)
      (answer : Execution.alone s.registry (s.asked q tree) = some a)
      (part : Value.PartOf w a.envelope.toValue) (unsayable : w.Unsayable)

/-- Every server answers alike to a payload that carries no call tree. -/
theorem answer_of_faulty {q : Request} {way : Way} (faulty : (q.carrier way).Faulty) :
    ∃ f : Payload.Fault, ∀ (G : Framework) (s : Server G), s.answer q way = some (failure f.message) := by
  obtain ⟨f, failed⟩ := Payload.Carrier.decode_fails_iff.2 faulty
  refine ⟨f, fun G s => ?_⟩
  rw [answer, failed, answerTree]

/-- What is answered to a call tree. -/
theorem answer_of_holds {s : Server F} {q : Request} {way : Way} {tree : Value}
    {a : CallTree.Response} (holds : (q.carrier way).Holds tree)
    (executed : Execution.alone s.registry (s.asked q tree) = some a) :
    s.answer q way = some (respond 200 a.envelope.toValue) := by
  rw [answer, Payload.Carrier.decode_eq_ok_iff.2 holds, answerTree, execute]
  exact congrArg (Option.map _) executed

theorem not_faulty_of_holds {c : Payload.Carrier} {tree : Value} (holds : c.Holds tree) :
    ¬ c.Faulty := by
  intro faulty
  obtain ⟨f, failed⟩ := Payload.Carrier.decode_fails_iff.2 faulty
  cases failed.symm.trans (Payload.Carrier.decode_eq_ok_iff.2 holds)

/-- The answer to a call tree is not sent exactly if it cannot be said. -/
theorem refused_iff {s : Server F} {q : Request} {way : Way} {tree : Value} {a : CallTree.Response}
    (holds : (q.carrier way).Holds tree)
    (executed : Execution.alone s.registry (s.asked q tree) = some a) :
    s.Refused q way ↔ ¬ a.envelope.toValue.Sayable := by
  rw [Value.not_sayable_iff]
  constructor
  · rintro (faulty | ⟨holds', executed', part, unsayable⟩)
    · exact absurd faulty (not_faulty_of_holds holds)
    · cases (Payload.Carrier.decode_eq_ok_iff.2 holds).symm.trans
        (Payload.Carrier.decode_eq_ok_iff.2 holds')
      cases executed.symm.trans executed'
      exact ⟨_, part, unsayable⟩
  · rintro ⟨w, part, unsayable⟩
    exact .answer holds executed part unsayable

/-- **Every call tree that comes is answered**, on a registry whose resolvers do not hang: with the
status 500 and a sentence on what is wrong exactly if the payload carries no call tree or the answer
to it has a part that no document can say, and else with the status 200 and the document of the
answer to the call tree, whether that is data or a failure. If the framework keeps its laws, that is what a
request for call trees is answered with. A payload that carries no call tree is answered alike by every
server, also by one whose resolvers hang: none of them is called. -/
theorem answers_every_payload (s : Server F) (lively : s.registry.Lively) (q : Request) (way : Way) :
    ∃ response, s.answer q way = some response ∧
      (F.Lawful → s.Serves q way → F.dispatch s.routes q = .ok (some response) ∧
        (F.check s.settings.corsOrigins = .ok () →
          ∃ origin, s.handle q = .ok (some { response with allowOrigin := origin }))) ∧
      (response.status = 500 ↔ s.Refused q way) ∧
      (s.Refused q way → ∃ message, message ≠ "" ∧ Tells response message) ∧
      (¬ s.Refused q way → response.status = 200 ∧ response.contentType = some jsonType ∧
        ∃ tree a, (q.carrier way).Holds tree ∧
          Execution.alone s.registry (s.asked q tree) = some a ∧
          Json.write .compact a.envelope.toValue = .ok response.body) ∧
      ((q.carrier way).Faulty → ∀ (G : Framework) (t : Server G), t.answer q way = some response) := by
  have served {response : Response} (answered : s.answer q way = some response) (lawful : F.Lawful)
      (serves : s.Serves q way) : F.dispatch s.routes q = .ok (some response) ∧
        (F.check s.settings.corsOrigins = .ok () →
          ∃ origin, s.handle q = .ok (some { response with allowOrigin := origin })) :=
    ⟨answered ▸ dispatch_eq lawful serves, fun usable => handle_eq lawful serves usable answered⟩
  rcases (q.carrier way).holds_or_faulty with ⟨tree, holds⟩ | faulty
  · -- A call tree has come. It is executed, and its answer may still be unsayable.
    obtain ⟨a, executed⟩ := Execution.responds (r := s.registry) (q := s.asked q tree)
      fun _ y _ => Execution.not_hangs lively y.1
    have answered := answer_of_holds holds executed
    refine ⟨_, answered, served answered, ?_⟩
    rw [refused_iff holds executed, ← Json.write_isOk_iff]
    cases written : Json.write .compact a.envelope.toValue with
    | ok body =>
      rw [respond_of_ok written]
      have fine : 200 ≠ 500 := by decide
      exact ⟨iff_of_false fine fun refused => refused rfl, fun refused => absurd rfl refused,
        fun _ => ⟨rfl, rfl, tree, a, holds, executed, written⟩,
        fun faulty => absurd faulty (not_faulty_of_holds holds)⟩
    | error f =>
      have tells : Tells (respond 200 a.envelope.toValue) f.message := tells_respond written
      exact ⟨iff_of_true tells.status nofun, fun _ => ⟨_, f.message_ne_empty, tells⟩,
        fun accepted => absurd nofun accepted,
        fun faulty => absurd faulty (not_faulty_of_holds holds)⟩
  · -- None has come, and nothing is executed.
    obtain ⟨f, answered⟩ := answer_of_faulty faulty
    have refused : s.Refused q way := .payload faulty
    have tells := tells_failure f.message
    exact ⟨_, answered F s, served (answered F s), iff_of_true tells.status refused,
      fun _ => ⟨_, f.message_ne_empty, tells⟩, fun accepted => absurd refused accepted,
      fun _ => answered⟩

/-- A registry of one query, of which the result holds a quotient by zero inside a list. -/
def quotients : Registry :=
  { root := [("ratio", { name := "ratio", type := .ofName false "Object"
                         resolve := fun _ _ => .value (.single "share" (.list [.float .nan])) })] }

/-- A server of that registry, with the default settings. -/
def dividing : Server .usual :=
  { registry := quotients, settings := .default, page := none
    path := Template.ofPath "/graph", specPath := Template.ofPath "/graph/__spec"
    pagePath := Template.ofPath "/graph/ui" }

/-- A request for the quotient. -/
def quotient : Request :=
  { method := "POST", path := "/graph", body := Text.Utf8.encode "[\"ratio\"]" }

theorem lively_quotients : quotients.Lively :=
  Registry.lively_of_root rfl (List.forall_mem_singleton.2 fun _ _ => .done _)

theorem holds_quotient : (quotient.carrier .body).Holds (.list [.text "ratio"]) := by
  have said : Payload.said "[\"ratio\"]" = "[\"ratio\"]" := by decide +kernel
  have letters : "[\"ratio\"]".toList =
      ['[', '\x22', 'r', 'a', 't', 'i', 'o', '\x22', ']'] := by decide +kernel
  have word : Json.StringText ['r', 'a', 't', 'i', 'o', '\x22', ']'] "ratio".toList [']'] :=
    Json.string_eq_ok_iff.1 rfl
  refine .body ?_ nofun
  rw [Payload.Carries, said, Json.Document, letters]
  exact ⟨by decide, [], .list (.lastItem (.text word) rfl), rfl⟩

theorem answers_every_payload_quotient :
    ∃ response, dividing.handle quotient = .ok (some response) ∧ response.status = 500 := by
  obtain ⟨response, -, served, refused, -⟩ :=
    answers_every_payload dividing lively_quotients quotient .body
  have fits : Framework.usual.fits dividing.path quotient.path = true := by decide +kernel
  obtain ⟨origin, handled⟩ := (served Framework.lawful_usual ⟨rfl, fits, nofun⟩).2 rfl
  refine ⟨_, handled, refused.2 ?_⟩
  have executed : Execution.alone quotients (dividing.asked quotient (.list [.text "ratio"])) =
      some (CallTree.Request.response
        (.ok (.single "ratio" (.single "share" (.list [.float .nan])))) _) :=
    Execution.alone_eq ⟨1, rfl⟩ (.inl rfl)
  refine .answer holds_quotient executed (Envelope.partOf_success ?_ _) .nan
  iterate 2 refine .field (List.mem_singleton_self _) ?_
  exact .item (List.mem_singleton_self _) .self

end Server

end CallTree.Http
