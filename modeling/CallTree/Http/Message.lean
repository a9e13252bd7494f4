/-
# CallTree.Http.Message — requests and responses of a server.

Of a response only what this library decides is kept: its status, the body with its type, and the
headers that say which methods and which origins are allowed.

Headers and queries are octets; they are kept as texts with one character for each
(`CallTree.Text.Latin`). The names of headers are in small letters.
-/
import CallTree.Json.Printer
import CallTree.Table
import CallTree.Text.Lower
import CallTree.Text.Latin
import CallTree.Text.Percent
import CallTree.Text.Split

namespace CallTree.Http

/-- **`Request`** — a request: the query is the text after the question mark, still encoded. -/
structure Request where
  method : String
  path : String
  query : String := ""
  headers : Table String := []
  body : List UInt8 := []

/-- **`Response`** — a response. -/
structure Response where
  status : Nat
  contentType : Option String
  body : String
  allow : Option String := none
  allowOrigin : Option String := none

/-! ## Headers -/

/-- The value of a header of a request, by its name in small letters. -/
def Request.header? (q : Request) (name : String) : Option String := q.headers.get? name

/-- **What resolvers see of a request**: a thing of its own with the headers as parts. -/
def Request.inbound (q : Request) : Value :=
  .foreign "Request" (q.headers.mapValues .text)

/-- The value of a header of what resolvers see of a request; its name may be written in any case,
and has to consist of characters that headers can carry. -/
def inboundHeader? (inbound : Value) (name : String) : Except Text.Latin.Fault (Option Value) :=
  (Text.Latin.check (Text.lower name)).map inbound.parts.get?

/-! ## Queries -/

/-- One field of a query: what stands before and after the first equals sign. -/
def queryField (part : List Char) : String × String :=
  let name := part.takeWhile (· ≠ '=')
  let value := (part.drop name.length).drop 1
  (Text.Percent.decodeForm (String.ofList name), Text.Percent.decodeForm (String.ofList value))

/-- The fields of a query, in order. -/
def queryFields (query : String) : List (String × String) :=
  ((Text.split '&' query.toList).filter fun part => !part.isEmpty).map queryField

/-- The last value of a field of a query. -/
def queryValue? (query name : String) : Option String :=
  ((queryFields query).reverse.find? (·.1 = name)).map (·.2)

/-! ## Responses -/

/-- The type of documents. -/
def jsonType : String := "application/json"

/-- A response with a document, or with why it cannot be written. -/
def respond (status : Nat) (v : Value) : Response :=
  match Json.write .compact v with
  | .ok body => { status, contentType := some jsonType, body }
  | .error f =>
    { status := 500, contentType := some jsonType
      body := "\x7b\"error\":" ++ Json.quoted false f.message ++ "\x7d" }

/-- A response that tells of an error. -/
def failure (message : String) : Response := respond 500 (.single "error" (.text message))

/-- A response with a text that is no document. -/
def plainText (status : Nat) (body : String) : Response :=
  { status, contentType := some "text/plain; charset=utf-8", body }

/-- A response with a page. -/
def html (body : String) : Response :=
  { status := 200, contentType := some "text/html; charset=utf-8", body }

/-- The response to a path that is not served. -/
def notFound : Response := respond 404 (.single "detail" (.text "Not Found"))

/-- The response to a method that a path does not serve. -/
def wrongMethod (allowed : List String) : Response :=
  { respond 405 (.single "detail" (.text "Method Not Allowed")) with
    allow := some (String.intercalate ", " allowed) }

/-- The response to a path that is served with or without a slash at its end. -/
def redirect : Response := { status := 307, contentType := none, body := "" }

end CallTree.Http
