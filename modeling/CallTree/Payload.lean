/-
# CallTree.Payload — call trees as they travel.

A call tree travels as a document: as text, as octets, percent-encoded (then it starts with a
percent sign), or, in a request body, as a string inside a document. What is neither text nor octets
is taken as it is.
-/
import CallTree.Json.Reader
import CallTree.Node.Reader
import CallTree.Text.Blank
import CallTree.Text.Percent

namespace CallTree.Payload

/-- Why a payload is no call tree. -/
inductive Fault where
  /-- The body of a request is blank. -/
  | blank
  /-- A request carries no payload at all. -/
  | missing
  | utf8 (f : Text.Utf8.Fault)
  | json (f : Json.Fault)
  deriving DecidableEq, Repr

/-- The sentence of a fault. -/
def Fault.message : Fault → String
  | .blank => "Request body must contain a call tree"
  | .missing => "Missing \"graph\" query parameter"
  | .utf8 f => f.message
  | .json f => f.message

/-- Read a text as a document, after percent-decoding if it starts with a percent sign. -/
def ofText (s : String) : Except Fault Value :=
  let text := Text.strip s
  let plain := if text.toList.head? = some '%' then Text.Percent.decode text else text
  (Json.read plain).mapError .json

/-- Read octets as a document. -/
def ofOctets (bs : List UInt8) : Except Fault Value :=
  match Text.Utf8.decode bs with
  | .error f => .error (.utf8 f)
  | .ok s => ofText s

/-- **Decode** a payload. -/
def decode : Value → Except Fault Value
  | .text s => ofText s
  | .octets bs => ofOctets bs
  | v => .ok v

/-- **Decode a request body**; a document that is a string is decoded once more. -/
def decodeBody (bs : List UInt8) : Except Fault Value :=
  if bs.all Text.isBlankOctet then .error .blank
  else
    match ofOctets bs with
    | .ok (.text s) => ofText s
    | other => other

/-- Why a payload is no call. -/
inductive CallFault where
  | payload (f : Fault)
  | shape (f : ShapeFault)

/-- Decode a payload and read it as a call tree. -/
def readCall (v : Value) : Except CallFault Node :=
  match decode v with
  | .error f => .error (.payload f)
  | .ok tree => (Node.read tree).mapError .shape

end CallTree.Payload
