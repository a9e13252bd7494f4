/-
# CallTree.Yaml.Reader — the values of documents.

The tag of a node says what it stands for. A mapping may take over the entries of others under the
key `<<`; its own entries come after those, and the last one of a key counts. A key that is not a
text is spelled as in a JSON document.

Where several parts are at fault, the one that is nested least is reported, and of those the first:
the parts of a node are made only after every node around and before it.
-/
import CallTree.Json.Printer
import CallTree.Text.Base64
import CallTree.Text.Quoted
import CallTree.Yaml.Node

namespace CallTree.Yaml

/-- A fault, and how far inside a node it lies. -/
abbrev Deep (α : Type) := Except (Nat × Fault) α

/-- All values, or the fault that lies least deep. -/
def leastDeep {α : Type} : List (Deep α) → Deep (List α)
  | [] => .ok []
  | found :: rest =>
    match found, leastDeep rest with
    | .ok v, .ok vs => .ok (v :: vs)
    | .error e, .ok _ => .error e
    | .ok _, .error e => .error e
    | .error (d, f), .error (e, g) => .error (if d ≤ e then (d, f) else (e, g))

/-- What is made one step further inside. -/
def inside {α : Type} : Deep α → Deep α
  | .ok v => .ok v
  | .error (d, f) => .error (d + 1, f)

/-- What is made at once. -/
def atOnce {α : Type} (found : Except Fault α) : Deep α := found.mapError (0, ·)

namespace Node

/-- A fault of the meaning of a node. -/
def fault (n : Node) (problem : Problem) (activity : Option Activity := none)
    (since : Option Mark := none) : Fault :=
  .misread ⟨.meaning, activity, since, problem, n.start⟩

/-! ## Scalars -/

mutual

/-- The text of a node that should be a scalar. A mapping stands for the value of its key `=`. -/
def scalarText? : Node → Except Fault String
  | .scalar _ text _ => .ok text
  | .mapping tag entries start =>
    match defaultText? entries with
    | some found => found
    | none => .error ((Node.mapping tag [] start).fault (.expectedNode "a scalar node" "mapping"))
  | n => .error (n.fault (.expectedNode "a scalar node" n.kindName))

/-- The text of the value under the key `=`, if there is one. -/
def defaultText? : List (Node × Node) → Option (Except Fault String)
  | [] => none
  | (key, value) :: rest =>
    if key.tag = coreTag "value" then some (scalarText? value) else defaultText? rest

end

/-- A value by its text. -/
def ofText (read : String → Except ScalarFault Value) (n : Node) : Except Fault Value :=
  match scalarText? n with
  | .error f => .error f
  | .ok text => (read text).mapError .scalar

/-- The octets of a node, written to the base 64. -/
def octets (n : Node) : Except Fault Value := do
  let cs := (← scalarText? n).toList
  let isAscii (c : Char) : Bool := c.toNat < 0x80
  let before := cs.takeWhile isAscii
  match cs.drop before.length with
  | [] =>
    match Text.Base64.decode cs with
    | .ok bs => return .octets bs
    | .error (.loose count) => throw (n.fault (.looseCharacter count))
    | .error .padding => throw (n.fault .padding)
  | rest => throw (n.fault (.nonAscii (rest.takeWhile (!isAscii ·)) before.length))

/-- The date of a node. The text of a mapping is never one. -/
def dated (n : Node) : Except Fault Value :=
  match scalarText? n, n with
  | .error f, _ => .error f
  | .ok _, .scalar _ text _ => (date text).mapError .scalar
  | .ok _, _ => .error (.scalar .noDate)

/-! ## Entries -/

mutual

/-- The entries of a mapping with those of the mappings under its keys `<<` in front. -/
def flatEntries (fuel : Nat) (n : Node) (entries : List (Node × Node)) :
    Except Fault (List (Node × Node)) := do
  match fuel with
  | 0 => throw (n.fault .tooDeep)
  | fuel + 1 =>
    let isMerge (e : Node × Node) : Bool := e.1.tag = coreTag "merge"
    let merged ← mergedEntries fuel n ((entries.filter isMerge).map Prod.snd)
    let own := (entries.filter (!isMerge ·)).map fun (key, value) =>
      match key with
      | .scalar tag text start =>
        (Node.scalar (if tag = coreTag "value" then coreTag "str" else tag) text start, value)
      | key => (key, value)
    return merged ++ own

/-- The entries of the mappings that are taken over; of several in a list, the last one first. -/
def mergedEntries (fuel : Nat) (n : Node) : List Node → Except Fault (List (Node × Node))
  | [] => return []
  | source :: rest => do
    match fuel with
    | 0 => throw (n.fault .tooDeep)
    | fuel + 1 =>
      let found ← match source with
        | .mapping _ entries _ => flatEntries fuel source entries
        | .sequence _ items _ => listedEntries fuel n items
        | _ => throw (source.fault
            (.expectedNode "a mapping or list of mappings for merging" source.kindName)
            (some .mapping) (some n.start))
      return found ++ (← mergedEntries fuel n rest)

/-- The entries of mappings in a list, the last one first. -/
def listedEntries (fuel : Nat) (n : Node) : List Node → Except Fault (List (Node × Node))
  | [] => return []
  | source :: rest => do
    match fuel with
    | 0 => throw (n.fault .tooDeep)
    | fuel + 1 =>
      match source with
      | .mapping _ entries _ =>
        let found ← flatEntries fuel source entries
        return (← listedEntries fuel n rest) ++ found
      | _ => throw (source.fault (.expectedNode "a mapping for merging" source.kindName)
          (some .mapping) (some n.start))

end

/-- A key as an object has it. A key has no parts. -/
def keyText : Value → String
  | .text s => s
  | .int n => toString n
  | .date s _ => s
  | .octets bs => Text.Quoted.octets bs
  | v => (Json.write .message v).toOption.getD ""

/-! ## Values -/

mutual

/-- The value of a node. -/
def valueIn (fuel : Nat) (n : Node) : Deep Value :=
  match fuel with
  | 0 => atOnce (.error (n.fault .tooDeep))
  | fuel + 1 =>
    let t := n.tag
    if n matches .cycle _ then .ok .null
    else if t = coreTag "null" then atOnce ((scalarText? n).map fun _ => .null)
    else if t = coreTag "bool" then atOnce (ofText (fun s => (boolean s).map .bool) n)
    else if t = coreTag "int" then atOnce (ofText (fun s => (int s).map .int) n)
    else if t = coreTag "float" then atOnce (ofText (fun s => (float s).map .float) n)
    else if t = coreTag "binary" then atOnce (octets n)
    else if t = coreTag "timestamp" then atOnce (dated n)
    else if t = coreTag "str" then atOnce ((scalarText? n).map .text)
    else if t = coreTag "seq" then inside ((items fuel n).map .list)
    else if t = coreTag "map" then inside ((table fuel n).map .object)
    else if t = coreTag "omap" then inside ((pairs fuel .orderedMapping n).map .list)
    else if t = coreTag "pairs" then inside ((pairs fuel .pairs n).map .list)
    else if t = coreTag "set" then inside ((table fuel n).map (.foreign "set"))
    else atOnce (.error (n.fault (.unknownTag t)))

/-- The values of a sequence. -/
def items (fuel : Nat) (n : Node) : Deep (List Value) :=
  match fuel with
  | 0 => atOnce (.error (n.fault .tooDeep))
  | fuel + 1 =>
    match n with
    | .sequence _ items _ => leastDeep (items.map (valueIn fuel))
    | _ => atOnce (.error (n.fault (.expectedNode "a sequence node" n.kindName)))

/-- The entries of a mapping as a table. -/
def table (fuel : Nat) (n : Node) : Deep (Table Value) :=
  match fuel with
  | 0 => atOnce (.error (n.fault .tooDeep))
  | fuel + 1 =>
    match n with
    | .mapping _ entries _ =>
      match flatEntries fuel n entries with
      | .error f => atOnce (.error f)
      | .ok flat => (leastDeep (flat.map fun (k, v) => entry fuel n k v)).map Table.ofList
    | _ => atOnce (.error (n.fault (.expectedNode "a mapping node" n.kindName)))

/-- An entry of a mapping. A key with parts cannot be looked up. -/
def entry (fuel : Nat) (n key v : Node) : Deep (String × Value) :=
  match fuel with
  | 0 => atOnce (.error (n.fault .tooDeep))
  | fuel + 1 =>
    let hasParts := ["seq", "map", "omap", "pairs", "set"].any fun name => key.tag = coreTag name
    if hasParts then atOnce (.error (key.fault .unkeyable (some .mapping) (some n.start)))
    else
      match valueIn fuel key with
      | .error e => .error e
      | .ok k => (valueIn fuel v).map fun v => (keyText k, v)

/-- The pairs of a sequence of mappings with one entry each. -/
def pairs (fuel : Nat) (activity : Activity) (n : Node) : Deep (List Value) :=
  match fuel with
  | 0 => atOnce (.error (n.fault .tooDeep))
  | fuel + 1 =>
    let refuse (m : Node) (problem : Problem) : Deep Value :=
      atOnce (.error (m.fault problem (some activity) (some n.start)))
    match n with
    | .sequence _ items _ =>
      leastDeep (items.map fun m =>
        match m with
        | .mapping _ [(key, v)] _ =>
          (leastDeep [valueIn fuel key, valueIn fuel v]).map .tuple
        | .mapping _ entries _ => refuse m (.severalEntries entries.length)
        | m => refuse m (.expectedNode "a mapping of length 1" m.kindName))
    | _ => (refuse n (.expectedNode "a sequence" n.kindName)).map fun v => [v]

end

end Node

/-! ## Documents -/

/-- Whether a document may hold a character. -/
def isAllowed (c : Char) : Bool :=
  let n := c.toNat
  n = 0x09 || n = 0x0a || n = 0x0d || (0x20 ≤ n && n ≤ 0x7e) || n = 0x85 ||
    (0xa0 ≤ n && n ≤ 0xfffd) || 0x10000 ≤ n

/-- The value of a document. -/
def readChars (source : List Char) : Except Fault Value := do
  match source.findIdx? (!isAllowed ·) with
  | some k => throw (.character ((source[k]?).getD ending) k)
  | none =>
    match ← Node.document? source with
    | none => return .null
    | some root => (root.valueIn (4 * source.length + 16)).mapError Prod.snd

/-- **Read** a document; nothing stands for null. -/
def read (s : String) : Except Fault Value := readChars s.toList

end CallTree.Yaml
