/-
# CallTree.Yaml.Node — documents as trees.

A node is a scalar, a sequence or a mapping. It has a tag: the one written in front of it, or the
one that its kind and spelling give it. An alias is the node that has the anchor of its name; inside
that node itself it stands for a cycle. A document is one node, and a stream holds at most one
document (`Node.document?`).

Recursion is bounded by a count that the length of the document determines; every call takes a token
or steps down one level of nesting, so the count is never used up.
-/
import CallTree.Yaml.Lexer

namespace CallTree.Yaml

/-- **`Node`** — a node, with its tag and the place where it starts. -/
inductive Node where
  | scalar (tag text : String) (start : Mark)
  | sequence (tag : String) (items : List Node) (start : Mark)
  | mapping (tag : String) (entries : List (Node × Node)) (start : Mark)
  /-- A node inside itself. -/
  | cycle (start : Mark)
  deriving Inhabited

namespace Node

/-- Where a node starts. -/
def start : Node → Mark
  | .scalar _ _ m => m
  | .sequence _ _ m => m
  | .mapping _ _ m => m
  | .cycle m => m

/-- The tag of a node. -/
def tag : Node → String
  | .scalar t _ _ => t
  | .sequence t _ _ => t
  | .mapping t _ _ => t
  | .cycle _ => ""

/-- The kind of a node as faults name it. -/
def kindName : Node → String
  | .scalar _ _ _ => "scalar"
  | .sequence _ _ _ => "sequence"
  | .mapping _ _ _ => "mapping"
  | .cycle _ => "alias"

end Node

/-! ## Tags -/

/-- The address in front of the tags of the format itself. -/
def coreAddress : String := "tag:yaml.org,2002:"

/-- A tag of the format itself. -/
def coreTag (name : String) : String := coreAddress ++ name

/-- The tag of a scalar by its spelling. -/
def ScalarKind.tag : ScalarKind → String
  | .bool => coreTag "bool"
  | .float => coreTag "float"
  | .int => coreTag "int"
  | .merge => coreTag "merge"
  | .null => coreTag "null"
  | .date => coreTag "timestamp"
  | .value => coreTag "value"
  | .text => coreTag "str"

/-- The handles that need no directive. -/
def defaultHandles : List (String × String) := [("!", "!"), ("!!", coreAddress)]

/-! ## Reading -/

/-- What is known while nodes are read. -/
structure NodeReader where
  lexer : Lexer
  handles : List (String × String) := defaultHandles
  /-- The nodes with anchors, the last one first. -/
  anchors : List (String × Node) := []

/-- A reading step. -/
abbrev NodeStep := StateT NodeReader (Except Fault)

namespace Node

/-- Look at the next token. -/
def peek : NodeStep Lexeme := do
  let (found, lexer) ← (← get).lexer.peek
  modify fun r => { r with lexer }
  return found

/-- Take the next token. -/
def take : NodeStep Lexeme := do
  let found ← peek
  modify fun r => { r with lexer := r.lexer.drop }
  return found

/-- Refuse the next token. -/
def refuse {α : Type} (activity : Option Activity) (since : Option Mark) (problem : Token → Problem) :
    NodeStep α := do
  let next ← peek
  throw (.misread ⟨.order, activity, since, problem next.token, next.start⟩)

/-- Refuse the next token where another one is expected. -/
def refuseToken {α : Type} (activity : Activity) (since : Mark) (what : String) : NodeStep α :=
  refuse (some activity) (some since) fun found => .expectedToken what found.name

/-- The scalar that is nowhere written. -/
def absent (m : Mark) : Node := .scalar (coreTag "null") "" m

/-- What stands in front of a node: an anchor and a tag, and where the first of them starts and the
last one stops. -/
structure Properties where
  anchor : Option String := none
  tag : Option (Option String × String) := none
  tagStart : Option Mark := none
  start : Option Mark := none
  stop : Option Mark := none

/-- Take an anchor or tag that is not there yet. -/
def property? (p : Properties) : NodeStep (Option Properties) := do
  let next ← peek
  let p := { p with start := p.start.or (some next.start), stop := some next.stop }
  match next.token, p.anchor, p.tag with
  | .anchor name, none, _ =>
    let _ ← take
    return some { p with anchor := some name }
  | .tag handle suffix, _, none =>
    let _ ← take
    return some { p with tag := some (handle, suffix), tagStart := some next.start }
  | _, _, _ => return none

/-- Take what stands in front of a node: an anchor and a tag in any order. -/
def properties : NodeStep Properties := do
  match ← property? {} with
  | none => return {}
  | some p =>
    match ← property? p with
    | some p => return p
    | none => return p

/-- The tag that is written in front of a node. -/
def writtenTag? (p : Properties) : NodeStep (Option String) := do
  match p.tag with
  | none => return none
  | some (none, suffix) => return some suffix
  | some (some handle, suffix) =>
    match (← get).handles.lookup handle with
    | some address => return some (address ++ suffix)
    | none =>
      throw (.misread
        ⟨.order, some .node, p.start, .unknownHandle handle, p.tagStart.getD {}⟩)

/-- The tag that counts: a lone exclamation mark is as good as none. -/
def countingTag? (written : Option String) : Option String :=
  if written = some "!" then none else written

/-- The tag of a scalar. Its spelling counts if it is plain, or behind a lone exclamation mark. -/
def scalarTag (written : Option String) (isPlain : Bool) (text : String) : String :=
  match countingTag? written with
  | some t => t
  | none => if isPlain || written.isSome then (kindOf text).tag else coreTag "str"

/-- Give an anchor to a node. -/
def setAnchor (anchor : Option String) (n : Node) : NodeStep Unit :=
  match anchor with
  | none => return ()
  | some name => modify fun r => { r with anchors := (name, n) :: r.anchors }

/-- Refuse an anchor that some node has already. -/
def checkAnchor (anchor : Option String) (start : Mark) : NodeStep Unit := do
  match anchor with
  | none => return ()
  | some name =>
    match (← get).anchors.lookup name with
    | none => return ()
    | some first =>
      throw (.misread
        ⟨.reference, some (.firstAnchor name), some first.start, .secondAnchor, start⟩)

/-- The node of an alias. -/
def aliased (name : String) (start : Mark) : NodeStep Node := do
  match (← get).anchors.lookup name with
  | some n => return n
  | none => throw (.misread ⟨.reference, none, none, .unknownAlias name, start⟩)

/-- Whether the next token is one of those for which `p` holds. -/
def nextIs (p : Token → Bool) : NodeStep Bool := return p (← peek).token

mutual

/-- A node. Outside brackets it may be a block; as the content of a mapping it may be a sequence
that is not indented further than the mapping. -/
def read (fuel : Nat) (isBlock isContent : Bool) : NodeStep Node := do
  match fuel with
  | 0 => refuse none none fun _ => .tooDeep
  | fuel + 1 =>
    let next ← peek
    match next.token with
    | .alias name =>
      let _ ← take
      aliased name next.start
    | _ =>
      let p ← properties
      let written ← writtenTag? p
      let next ← peek
      let start := p.start.getD next.start
      let sequence (items : NodeStep (List Node)) : NodeStep Node :=
        collection p.anchor start items fun items =>
          .sequence ((countingTag? written).getD (coreTag "seq")) items start
      let mapping (entries : NodeStep (List (Node × Node))) : NodeStep Node :=
        collection p.anchor start entries fun entries =>
          .mapping ((countingTag? written).getD (coreTag "map")) entries start
      match next.token with
      | .scalar text isPlain =>
        let _ ← take
        single p.anchor (.scalar (scalarTag written isPlain text) text start)
      | .flowSequenceStart => sequence do flowItems fuel (← take).start true
      | .flowMappingStart => mapping do flowEntries fuel (← take).start true
      | .blockEntry =>
        if isContent then sequence (contentItems fuel)
        else orAbsent isBlock p written start
      | .blockSequenceStart =>
        if isBlock then sequence do blockItems fuel (← take).start
        else orAbsent isBlock p written start
      | .blockMappingStart =>
        if isBlock then mapping do blockEntries fuel (← take).start
        else orAbsent isBlock p written start
      | _ => orAbsent isBlock p written start
where
  /-- A node without parts. -/
  single (anchor : Option String) (n : Node) : NodeStep Node := do
    checkAnchor anchor n.start
    setAnchor anchor n
    return n
  /-- A node with parts, inside which its anchor stands for a cycle. -/
  collection {α : Type} (anchor : Option String) (start : Mark) (parts : NodeStep α)
      (node : α → Node) : NodeStep Node := do
    checkAnchor anchor start
    setAnchor anchor (.cycle start)
    let n := node (← parts)
    setAnchor anchor n
    return n
  /-- A node of which nothing but an anchor or tag is written. -/
  orAbsent (isBlock : Bool) (p : Properties) (written : Option String) (start : Mark) :
      NodeStep Node :=
    if p.anchor.isSome || p.tag.isSome then
      single p.anchor (.scalar (scalarTag written (written.isNone) "") "" start)
    else
      refuseToken (if isBlock then .blockNode else .flowNode) start "the node content"

/-- A node, or the absent one if a token for which `isEnd` holds comes next. -/
def readOr (fuel : Nat) (isBlock isContent : Bool) (isEnd : Token → Bool) (m : Mark) :
    NodeStep Node := do
  match fuel with
  | 0 => refuse none none fun _ => .tooDeep
  | fuel + 1 => if ← nextIs isEnd then return absent m else read fuel isBlock isContent

/-- The items of a block that begins at `since`. -/
def blockItems (fuel : Nat) (since : Mark) : NodeStep (List Node) := do
  match fuel with
  | 0 => refuse none none fun _ => .tooDeep
  | fuel + 1 =>
    match (← peek).token with
    | .blockEntry =>
      let stop := (← take).stop
      let item ← readOr fuel true false (fun t => t matches .blockEntry | .blockEnd) stop
      return item :: (← blockItems fuel since)
    | .blockEnd =>
      let _ ← take
      return []
    | _ => refuseToken .blockCollection since "<block end>"

/-- The items of a sequence that is not indented further than the mapping around it. -/
def contentItems (fuel : Nat) : NodeStep (List Node) := do
  match fuel with
  | 0 => refuse none none fun _ => .tooDeep
  | fuel + 1 =>
    match (← peek).token with
    | .blockEntry =>
      let stop := (← take).stop
      let item ← readOr fuel true false
        (fun t => t matches .blockEntry | .key | .value | .blockEnd) stop
      return item :: (← contentItems fuel)
    | _ => return []

/-- The entries of a block that begins at `since`. -/
def blockEntries (fuel : Nat) (since : Mark) : NodeStep (List (Node × Node)) := do
  match fuel with
  | 0 => refuse none none fun _ => .tooDeep
  | fuel + 1 =>
    let isEnd (t : Token) : Bool := t matches .key | .value | .blockEnd
    match (← peek).token with
    | .key =>
      let stop := (← take).stop
      let key ← readOr fuel true true isEnd stop
      let value ← valueAfter fuel true isEnd
      return (key, value) :: (← blockEntries fuel since)
    | .blockEnd =>
      let _ ← take
      return []
    | _ => refuseToken .blockMapping since "<block end>"

/-- The value behind a key: a colon and a node, of which either may be absent. -/
def valueAfter (fuel : Nat) (isBlock : Bool) (isEnd : Token → Bool) : NodeStep Node := do
  match fuel with
  | 0 => refuse none none fun _ => .tooDeep
  | fuel + 1 =>
    let next ← peek
    match next.token with
    | .value =>
      let stop := (← take).stop
      readOr fuel isBlock isBlock isEnd stop
    | _ => return absent next.start

/-- The items of a sequence in brackets that begins at `since`. -/
def flowItems (fuel : Nat) (since : Mark) (isFirst : Bool) : NodeStep (List Node) := do
  match fuel with
  | 0 => refuse none none fun _ => .tooDeep
  | fuel + 1 =>
    if ← nextIs (· matches .flowSequenceEnd) then
      let _ ← take
      return []
    else
      if !isFirst then
        if ← nextIs (· matches .flowEntry) then
          let _ ← take
        else refuse (some .flowSequence) (some since) fun found => .expectedComma "]" found.name
      let next ← peek
      match next.token with
      | .flowSequenceEnd =>
        let _ ← take
        return []
      | .key =>
        let stop := (← take).stop
        let isEnd (t : Token) : Bool := t matches .flowEntry | .flowSequenceEnd
        let key ← readOr fuel false false (fun t => isEnd t || t matches .value) stop
        let value ← valueAfter fuel false isEnd
        let pair := Node.mapping (coreTag "map") [(key, value)] next.start
        return pair :: (← flowItems fuel since false)
      | _ =>
        let item ← read fuel false false
        return item :: (← flowItems fuel since false)

/-- The entries of a mapping in brackets that begins at `since`. -/
def flowEntries (fuel : Nat) (since : Mark) (isFirst : Bool) : NodeStep (List (Node × Node)) := do
  match fuel with
  | 0 => refuse none none fun _ => .tooDeep
  | fuel + 1 =>
    if ← nextIs (· matches .flowMappingEnd) then
      let _ ← take
      return []
    else
      if !isFirst then
        if ← nextIs (· matches .flowEntry) then
          let _ ← take
        else
          refuse (some .flowMapping) (some since) fun found => .expectedComma "\x7d" found.name
      match (← peek).token with
      | .flowMappingEnd =>
        let _ ← take
        return []
      | .key =>
        let stop := (← take).stop
        let isEnd (t : Token) : Bool := t matches .flowEntry | .flowMappingEnd
        let key ← readOr fuel false false (fun t => isEnd t || t matches .value) stop
        let value ← valueAfter fuel false isEnd
        return (key, value) :: (← flowEntries fuel since false)
      | _ =>
        let key ← read fuel false false
        let value := absent (← peek).start
        return (key, value) :: (← flowEntries fuel since false)

end

/-! ## Documents -/

/-- Take the directives before a document. -/
def directives : (fuel : Nat) → (hasVersion : Bool) → (handles : List (String × String)) →
    NodeStep (List (String × String))
  | 0, _, handles => return handles
  | fuel + 1, hasVersion, handles => do
    let next ← peek
    let refuseHere (problem : Problem) : NodeStep (List (String × String)) :=
      throw (.misread ⟨.order, none, none, problem, next.start⟩)
    match next.token with
    | .directive d =>
      let _ ← take
      match d with
      | .version major _ =>
        if hasVersion then refuseHere .repeatedVersion
        else if major ≠ 1 then refuseHere .otherVersion
        else directives fuel true handles
      | .handle handle address =>
        if (handles.lookup handle).isSome then refuseHere (.repeatedHandle handle)
        else directives fuel hasVersion (handles ++ [(handle, address)])
      | .other => directives fuel hasVersion handles
    | _ => return handles

/-- Take marks of a document's end. -/
def documentEnds : (fuel : Nat) → NodeStep Unit
  | 0 => return ()
  | fuel + 1 => do
    if ← nextIs (· matches .documentEnd) then
      let _ ← take
      documentEnds fuel

/-- The directives and the mark before a document, and where they start; nothing at the end of the
stream. -/
def opening? (fuel : Nat) : NodeStep (Option Mark) := do
  documentEnds fuel
  let next ← peek
  match next.token with
  | .streamEnd => return none
  | _ =>
    let handles ← directives fuel false []
    if ← nextIs (· matches .documentStart) then
      let _ ← take
      modify fun r => { r with handles := handles ++ defaultHandles }
      return some next.start
    else refuse none none fun found => .expectedToken "'<document start>'" found.name

/-- The node of a document behind its mark. -/
def content (fuel : Nat) : NodeStep Node := do
  let next ← peek
  match next.token with
  | .directive _ | .documentStart | .documentEnd | .streamEnd => return absent next.start
  | _ => read fuel true false

/-- The only document of a stream, if it has one. -/
def only? (fuel : Nat) : NodeStep (Option Node) := do
  let isOpening (t : Token) : Bool := t matches .directive _ | .documentStart | .streamEnd
  let root? ←
    if ← nextIs isOpening then
      match ← opening? fuel with
      | none => pure none
      | some _ => some <$> content fuel
    else some <$> read fuel true false
  match root? with
  | none => return none
  | some root =>
    match ← opening? fuel with
    | none => return some root
    | some start =>
      throw (.misread
        ⟨.reference, some .singleDocument, some root.start, .anotherDocument, start⟩)

/-- **The tree of a stream** of at most one document. -/
def document? (source : List Char) : Except Fault (Option Node) :=
  ((only? (8 * source.length + 64)).run { lexer := .ofChars source }).map Prod.fst

end Node

end CallTree.Yaml
