/-
# CallTree.Value.Literal — values as messages show them.

`literal` is the form in which a message quotes a value it complains about: texts in quotes, `None`,
`True` and `False`, lists in brackets, tuples in parentheses with a comma after a single item.
`display` is the same except that a text stands without quotes. A value that holds a whole number of too
many digits has neither form.
-/
import CallTree.Number.Decimal
import CallTree.Text.Quoted
import CallTree.Value

namespace CallTree.Value

/-- Texts with a separator between them. -/
def separated (separator : String) : List String → String
  | [] => ""
  | [s] => s
  | s :: rest => s ++ separator ++ separated separator rest

/-- The flags of a pattern as a literal shows them, beside those that every pattern of text has. -/
def flagNames (f : Pattern.Flags) : List String :=
  (if f.ignoreCase then ["re.IGNORECASE"] else []) ++
  (if f.locale then ["re.LOCALE"] else []) ++
  (if f.multiline then ["re.MULTILINE"] else []) ++
  (if f.dotAll then ["re.DOTALL"] else []) ++
  (if f.verbose then ["re.VERBOSE"] else []) ++
  (if f.ascii then ["re.ASCII"] else []) ++
  (if f.template then ["re.TEMPLATE"] else [])

/-- A pattern as a literal. -/
def patternLiteral (p : Pattern) : String :=
  let source :=
    if p.isText then Text.Quoted.text (String.ofList p.source)
    else Text.Quoted.octets (p.source.map fun c => UInt8.ofNat c.toNat)
  let flags := flagNames p.flags
  let tail := if flags.isEmpty then "" else ", " ++ separated "|" flags
  "re.compile(" ++ source ++ tail ++ ")"

/-- A tuple as a literal, from the literals of its items. -/
def tupleLiteral : List String → String
  | [s] => "(" ++ s ++ ",)"
  | ss => "(" ++ separated ", " ss ++ ")"

mutual

/-- **Literal** form of a value. -/
def literal : Value → Except Decimal.Fault String
  | .null => .ok "None"
  | .bool b => .ok (if b then "True" else "False")
  | .int n => Decimal.whole n
  | .float x => .ok (Decimal.message x)
  | .text s => .ok (Text.Quoted.text s)
  | .octets bs => .ok (Text.Quoted.octets bs)
  | .list xs => (literals xs).map fun ss => "[" ++ separated ", " ss ++ "]"
  | .tuple xs => (literals xs).map tupleLiteral
  | .object fs => (fieldLiterals fs).map fun ss => "\x7b" ++ separated ", " ss ++ "\x7d"
  | .date s _ => .ok s
  | .pattern p => .ok (patternLiteral p)
  | .foreign name _ => .ok ("<" ++ name ++ ">")

/-- The literals of items. -/
def literals : List Value → Except Decimal.Fault (List String)
  | [] => .ok []
  | v :: rest =>
    match literal v with
    | .error e => .error e
    | .ok s => (literals rest).map (s :: ·)

/-- The literals of fields. -/
def fieldLiterals : List (String × Value) → Except Decimal.Fault (List String)
  | [] => .ok []
  | (k, v) :: rest =>
    match literal v with
    | .error e => .error e
    | .ok s => (fieldLiterals rest).map ((Text.Quoted.text k ++ ": " ++ s) :: ·)

end

/-- A value as it stands inside a sentence. -/
def display : Value → Except Decimal.Fault String
  | .text s => .ok s
  | v => literal v

end CallTree.Value
