/-
# CallTree.Command.Grammar — options and words on a command line.

A grammar names the options of a command and the words that it takes besides. An option is spelled
with two dashes and a name, of which as much is enough as no other option starts with, or with one
dash and a letter. A value follows its option as the next argument, or after an equals sign, or
after the letter at once; letters of options without values may be written together after one
dash. Arguments after a lone `--` are words, and so are a lone dash, whatever looks like a negative
number, and whatever has a space in it and is no option.

A run of words between two options fills all words that are still missing, or as many as there are;
what is left over is surplus. Reading ends early at an option that asks for help or for the
version, and at the first argument that fits nowhere, whichever comes first.
-/
import CallTree.Number.Reading
import CallTree.Table

namespace CallTree.Command

/-- How reading a command line ends if it does not end in a command. -/
inductive Ending where
  | help
  | version
  | refused
  deriving DecidableEq, Repr

/-- What an option does. -/
inductive Effect where
  | help
  | version
  /-- Being there is all that counts. -/
  | mark
  | text
  /-- The value has to spell a whole number. -/
  | number
  deriving DecidableEq, Repr

/-- Whether an option has a value. -/
def Effect.takesValue : Effect → Bool
  | .text | .number => true
  | _ => false

/-- **`Switch`** — an option: its spellings, its name, and what it does. -/
structure Switch where
  spellings : List String
  name : String
  effect : Effect

/-- The words that a command takes. -/
inductive Words where
  | none
  | one (name : String)
  /-- One or two words; of two, the first has the first name. -/
  | oneOrTwo (first last : String)
  /-- A word, and all arguments after it as they are. -/
  | command

/-- **`Grammar`** — the options and the words of a command. -/
structure Grammar where
  switches : List Switch
  words : Words

/-! ## Arguments one by one -/

/-- What one argument is. -/
inductive Token where
  | word
  /-- The lone `--`. -/
  | separator
  /-- An option in full or in part, and the value joined to it. -/
  | long (s : Switch) (joined : Option (List Char))
  /-- The letter of an option and what is joined to it, after an equals sign or at once. -/
  | short (s : Switch) (equals : Bool) (joined : Option (List Char))
  | unknown

/-- Whether characters look like a negative number: a dash and digits, possibly with a point before
the last of them, and possibly a line end. -/
def isNegative : List Char → Bool
  | '-' :: rest =>
    let body := if rest.getLast? = some '\n' then rest.dropLast else rest
    let whole := body.takeWhile Text.isDigit
    match body.dropWhile Text.isDigit with
    | [] => !whole.isEmpty
    | '.' :: fraction => !fraction.isEmpty && fraction.all Text.isDigit
    | _ => false
  | _ => false

namespace Grammar

/-- The option with a spelling. -/
def find? (g : Grammar) (spelling : List Char) : Option Switch :=
  g.switches.find? fun s => s.spellings.contains (String.ofList spelling)

/-- The options with a spelling that starts so, once for each such spelling. -/
def startingWith (g : Grammar) (part : List Char) : List Switch :=
  g.switches.flatMap fun s =>
    (s.spellings.filter fun spelling => part.isPrefixOf spelling.toList).map fun _ => s

/-- An argument that starts with a dash and is no option. -/
def otherwise (cs : List Char) : Token :=
  if isNegative cs || cs.contains ' ' then .word else .unknown

/-- What an argument is, unless several options start like it. -/
def classify (g : Grammar) (arg : String) : Except Ending Token :=
  let cs := arg.toList
  let name := cs.takeWhile (· ≠ '=')
  let joined := match cs.dropWhile (· ≠ '=') with
    | [] => none
    | _ :: text => some text
  match cs with
  | '-' :: '-' :: _ =>
    match g.find? cs, g.find? name, g.startingWith name with
    | some s, _, _ => .ok (.long s none)
    | none, some s, _ => .ok (.long s joined)
    | none, none, [s] => .ok (.long s joined)
    | none, none, [] => .ok (otherwise cs)
    | none, none, _ => .error .refused
  | '-' :: letter :: text =>
    match g.find? cs, g.find? name, g.find? ['-', letter] with
    | some s, _, _ => .ok (.short s false none)
    | none, some s, _ => .ok (.short s true joined)
    | none, none, some s => .ok (.short s false (some text))
    | none, none, none => .ok (otherwise cs)
  | _ => .ok .word

/-- The arguments with what they are. -/
def tokens (g : Grammar) : List String → Except Ending (List (String × Token))
  | [] => .ok []
  | "--" :: rest => .ok (("--", .separator) :: rest.map fun arg => (arg, .word))
  | arg :: rest => do return (arg, ← g.classify arg) :: (← g.tokens rest)

/-! ## Options with their values -/

/-- What one argument asks for: options with their values, perhaps an option with the value still
to come, and perhaps a letter that is no option. -/
structure Request where
  given : List (Switch × String) := []
  waiting : Option Switch := none
  unknown : Bool := false

/-- An option without anything joined to it. -/
def Request.bare (s : Switch) : Request :=
  if s.effect.takesValue then { waiting := some s } else { given := [(s, "")] }

/-- An option in front of others. -/
def Request.after (s : Switch) (q : Request) : Request := { q with given := (s, "") :: q.given }

/-- The letter of an option with what is joined to it: its value, or further letters. -/
def letters (g : Grammar) (s : Switch) (equals : Bool) (joined : List Char) :
    Except Ending Request :=
  if s.effect.takesValue then .ok { given := [(s, String.ofList joined)] }
  else if equals then .error .refused
  else
    match joined with
    | [] => .error .refused
    | '-' :: _ => .error .refused
    | letter :: rest =>
      match g.find? ['-', letter], rest with
      | none, _ => .ok { given := [(s, "")], unknown := true }
      | some other, [] => .ok (.after s (.bare other))
      | some other, '=' :: value => (g.letters other true value).map (.after s)
      | some other, more => (g.letters other false more).map (.after s)
  termination_by joined.length

end Grammar

/-- What an option asks for, in full or as a letter. -/
def Token.request (g : Grammar) : Token → Except Ending Grammar.Request
  | .long s none => .ok (.bare s)
  | .long s (some value) =>
    if s.effect.takesValue then .ok { given := [(s, String.ofList value)] } else .error .refused
  | .short s _ none => .ok (.bare s)
  | .short s equals (some joined) => g.letters s equals joined
  | _ => .ok { unknown := true }

/-! ## A whole line -/

/-- **`Line`** — what has been read of a command line: what was given by name, the words that are
still missing, a command with its arguments, and whether anything was surplus. -/
structure Line where
  given : Table String := []
  missing : Words
  command : Option (String × List String) := none
  surplus : Bool := false

namespace Line

/-- Take note of an option. -/
def add (l : Line) (s : Switch) (text : String) : Except Ending Line :=
  let noted : Line := { l with given := l.given.set s.name text }
  match s.effect with
  | .help => .error .help
  | .version => .error .version
  | .mark | .text => .ok noted
  | .number => if (Reading.int text).isOk then .ok noted else .error .refused

/-- Take note of options one after the other. -/
def addAll (l : Line) : List (Switch × String) → Except Ending Line
  | [] => .ok l
  | (s, text) :: rest => do (← l.add s text).addAll rest

/-- Take note of the last of several words. A second `--` does not count as one: the word is no
longer missing, but it is not given either. -/
def addLast (l : Line) (name w : String) : Line :=
  { l with given := if w = "--" then l.given else l.given.set name w, missing := .none }

/-- Fill missing words from a run of words, in which there may have been a separator. -/
def fill (l : Line) (separated : Bool) (run : List String) : Line :=
  match l.missing, run with
  | _, [] => { l with surplus := l.surplus || separated }
  | .one name, w :: more =>
    { l with
      given := l.given.set name w, missing := .none, surplus := l.surplus || !more.isEmpty }
  | .oneOrTwo _ last, [w] => l.addLast last w
  | .oneOrTwo first last, v :: w :: more =>
    { { l with given := l.given.set first v }.addLast last w with
      surplus := l.surplus || !more.isEmpty }
  | _, _ => { l with surplus := true }

end Line

/-- Read the rest of a line after a run of words. -/
def Grammar.walk (g : Grammar) (l : Line) (separated : Bool) (run : List String) :
    List (String × Token) → Except Ending Line
  | [] => .ok (l.fill separated run)
  | (w, .word) :: rest =>
    match l.missing with
    | .command => .ok { l with command := some (w, rest.map Prod.fst), missing := .none }
    | _ => g.walk l separated (run ++ [w]) rest
  | (_, .separator) :: rest =>
    match l.missing with
    | .command => .error .refused
    | _ => g.walk l true run rest
  | (_, token) :: rest =>
    match token.request g with
    | .error e => .error e
    | .ok q =>
      let filled := l.fill separated run
      let l := { filled with surplus := filled.surplus || q.unknown }
      match q.waiting with
      | none =>
        match l.addAll q.given with
        | .error e => .error e
        | .ok l => g.walk l false [] rest
      | some s =>
        match rest with
        | (text, .word) :: rest =>
          match l.addAll (q.given ++ [(s, text)]) with
          | .error e => .error e
          | .ok l => g.walk l false [] rest
        | _ => .error .refused

/-- **Read a command line.** -/
def Grammar.read (g : Grammar) (args : List String) : Except Ending Line := do
  g.walk { missing := g.words } false [] (← g.tokens args)

/-- A line that is complete and has nothing surplus. -/
def Line.complete (l : Line) : Except Ending Line :=
  match l.missing, l.surplus with
  | .one _, _ => .error .refused
  | .oneOrTwo _ _, _ => .error .refused
  | _, true => .error .refused
  | _, false => .ok l

end CallTree.Command
