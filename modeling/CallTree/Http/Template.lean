/-
# CallTree.Http.Template — paths with parameters.

A template is a path in which `\x7bname\x7d` stands for any part without a slash. A kind after the
name, as in `\x7bid:int\x7d`, says what the parameter stands for. Braces around anything else stand
for themselves.

A template fits a path if its pieces, one after the other, match the path up to its end or up to one
line end there. What parameters stand for are search patterns, so a template as a whole is one too.
-/
import CallTree.Pattern.Matcher

namespace CallTree.Http

/-- What a parameter stands for. -/
inductive Parameter where
  /-- Characters other than a slash. -/
  | segment
  /-- Characters, slashes too, or nothing. -/
  | path
  | whole
  | decimal
  | uuid
  deriving DecidableEq, Repr

namespace Parameter

/-- The names of kinds of parameters. -/
def names : List (String × Parameter) :=
  [("str", .segment), ("path", .path), ("int", .whole), ("float", .decimal), ("uuid", .uuid)]

/-- The pattern of a character. -/
def mark (c : Char) : Pattern.Regex := .char false c.toNat

/-- The pattern of decimal digits. -/
def digits : Pattern.Regex :=
  .repeated .greedy 1 none (.oneOf false [.range '0'.toNat '9'.toNat])

/-- The pattern of hexadecimal digits in a number. -/
def hexDigits (count : Nat) : Pattern.Regex :=
  .repeated .greedy count (some count) (.oneOf false [.range '0'.toNat '9'.toNat,
    .range 'a'.toNat 'f'.toNat, .range 'A'.toNat 'F'.toNat])

/-- The pattern of a hyphen that may be left out. -/
def hyphen : Pattern.Regex := .repeated .greedy 0 (some 1) (mark '-')

/-- What a parameter stands for, as a pattern. -/
def pattern : Parameter → Pattern.Regex
  | .segment => .repeated .greedy 1 none (.char true '/'.toNat)
  | .path => .repeated .greedy 0 none .anyChar
  | .whole => digits
  | .decimal => .seq digits (.repeated .greedy 0 (some 1) (.seq (mark '.') digits))
  | .uuid => .ofSequence [hexDigits 8, hyphen, hexDigits 4, hyphen, hexDigits 4, hyphen,
      hexDigits 4, hyphen, hexDigits 12]

end Parameter

/-- **`Template`** — a path with parameters: their names, and the pattern of the paths that fit. -/
structure Template where
  names : List String
  pattern : Pattern.Regex

namespace Template

/-- Why a text is no template. -/
inductive Fault where
  /-- A parameter of a kind that does not exist. -/
  | unknownKind (kind : String)
  /-- Names that more than one parameter has, in order. -/
  | repeatedNames (names : List String) (path : String)
  deriving DecidableEq, Repr

/-- The sentence of a fault. -/
def Fault.message : Fault → String
  | .unknownKind kind => "Unknown path convertor '" ++ kind ++ "'"
  | .repeatedNames names path =>
    "Duplicated param name" ++ (if names.length = 1 then " " else "s ") ++
      String.intercalate ", " names ++ " at path " ++ path

/-- Whether a character may start a name. -/
def startsName (c : Char) : Bool := c.isAlpha || c = '_'

/-- A name in front of a text, and what follows it. -/
def name? : List Char → Option (String × List Char)
  | [] => none
  | c :: rest =>
    if startsName c then
      let more := rest.takeWhile fun d => d.isAlphanum || d = '_'
      some (String.ofList (c :: more), rest.drop more.length)
    else none

/-- A parameter after its opening brace: its name, the name of its kind, and what follows. -/
def parameter? (cs : List Char) : Option (String × String × List Char) :=
  match name? cs with
  | some (name, '\x7d' :: rest) => some (name, "str", rest)
  | some (name, ':' :: more) =>
    match name? more with
    | some (kind, '\x7d' :: rest) => some (name, kind, rest)
    | _ => none
  | _ => none

/-- A piece of a template. -/
inductive Piece where
  | literal (c : Char)
  | parameter (name kind : String)

/-- The pieces of a template. -/
def pieces : (fuel : Nat) → List Char → List Piece
  | 0, _ => []
  | _ + 1, [] => []
  | fuel + 1, c :: rest =>
    match c, parameter? rest with
    | '\x7b', some (name, kind, left) => .parameter name kind :: pieces fuel left
    | _, _ => .literal c :: pieces fuel rest

/-- The name of a piece that is a parameter. -/
def Piece.name? : Piece → Option String
  | .literal _ => none
  | .parameter name _ => some name

/-- The pattern of a piece. -/
def Piece.pattern : Piece → Except Fault Pattern.Regex
  | .literal c => .ok (Parameter.mark c)
  | .parameter _ kind =>
    match Parameter.names.lookup kind with
    | some p => .ok p.pattern
    | none => .error (.unknownKind kind)

/-- **Read a path** as a template. -/
def read (path : String) : Except Fault Template := do
  let ps := pieces (path.length + 1) path.toList
  let patterns ← ps.mapM Piece.pattern
  let names := ps.filterMap Piece.name?
  let repeated := (names.eraseDups.filter fun n => 1 < names.count n).mergeSort
  if repeated.isEmpty then
    return { names, pattern := .ofSequence (patterns ++ [.anchor .lineEnd]) }
  else throw (.repeatedNames repeated path)

/-- The template of a path without parameters. -/
def ofPath (path : String) : Template :=
  { names := []
    pattern := .ofSequence (path.toList.map Parameter.mark ++ [.anchor .lineEnd]) }

/-- **Whether a path fits a template.** -/
def fits (t : Template) (path : String) : Bool :=
  Pattern.run path.toList.toArray t.pattern {} false { position := 0 } .reached matches .reached _

end Template

end CallTree.Http
