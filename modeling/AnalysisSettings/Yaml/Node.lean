import AnalysisSettings.Yaml.Lexer

/-!
# Nodes

The tree of a document: scalars, sequences and mappings. An alias is replaced by the node it stands
for, so a node that contains itself has no tree; and a document whose aliases stand for much more
than it contains is refused before anybody walks its tree.

Only a single document is read; a second one in the same text is malformed, like any break of the
rules of the language.
-/

namespace AnalysisSettings.Yaml

/-- A node with its tag, if it has one that is more than "none". -/
inductive Node where
  | scalar (tag : Option String) (isPlain : Bool) (content : String)
  | sequence (tag : Option String) (items : List Node)
  | mapping (tag : Option String) (entries : List (Node × Node))

/-- A node that is named by an anchor. -/
structure Anchored where
  node : Node
  /-- How many aliases its tree stands for. -/
  aliases : Nat

/-- What is known while the tokens of a document are read. -/
structure Reading where
  tokens : List Token
  /-- The short forms of tags, the latest first. -/
  handles : List (String × String) := []
  /-- The anchors, the latest first; a node that is still being read has no tree yet. -/
  anchors : List (String × Option Anchored) := []
  /-- Scalars and aliases, and the beginnings and ends of the other nodes. -/
  events : Nat := 0
  aliases : Nat := 0

/-- A step in reading a document, which fails where the document is malformed. -/
abbrev Reads := StateT Reading Option

namespace Reads

/-- The next token; none at the end of the text. -/
def next? : Reads (Option Token) := do
  return (← get).tokens.head?

/-- Goes past the next token. -/
def pass : Reads Unit :=
  modify fun r => { r with tokens := r.tokens.tail }

/-- Goes past the next token, which must be the given one. -/
def expect (t : Token) : Reads Unit := do
  if (← next?) = some t then pass else failure

/-- Goes past the next token if it is the given one. -/
def passIf (t : Token) : Reads Bool := do
  if (← next?) = some t then
    pass
    return true
  else return false

/-- Counts the parts of a node. -/
def count (events : Nat) : Reads Unit :=
  modify fun r => { r with events := r.events + events }

/-- A node that is not written. -/
def empty (tag : Option String) : Reads Node := do
  count 1
  return .scalar tag true ""

/-- The node an alias stands for. -/
def resolve (name : String) : Reads Node := do
  match (← get).anchors.lookup name with
  | some (some a) =>
    count 1
    modify fun r => { r with aliases := r.aliases + 1 + a.aliases }
    return a.node
  | _ => failure

/-- Reads a node under an anchor. -/
def anchored (anchor : Option String) (read : Reads Node) : Reads Node :=
  match anchor with
  | none => read
  | some name => do
    modify fun r => { r with anchors := (name, none) :: r.anchors }
    let before := (← get).aliases
    let node ← read
    modify fun r =>
      { r with anchors := (name, some ⟨node, r.aliases - before⟩) :: r.anchors }
    return node

/-- The tag that a handle and a suffix stand for. -/
def tagOf (handle suffix : String) : Reads String := do
  if handle.isEmpty then return suffix
  else match (← get).handles.lookup handle with
    | some lead => return lead ++ suffix
    | none => failure

/-- The anchor and the tag before a node, in either order. -/
def properties : Reads (Option String × Option String) := do
  match ← next? with
  | some (.anchor name) =>
    pass
    match ← next? with
    | some (.tag handle suffix) =>
      pass
      return (some name, some (← tagOf handle suffix))
    | _ => return (some name, none)
  | some (.tag handle suffix) =>
    pass
    match ← next? with
    | some (.anchor name) =>
      pass
      return (some name, some (← tagOf handle suffix))
    | _ => return (none, some (← tagOf handle suffix))
  | _ => return (none, none)

/-- One of the tokens stands next, or the text ends. -/
def atAny (ts : List Token) : Reads Bool := do
  return ((← next?).map ts.contains).getD false

mutual

/-- A node. In block context it may be a block; `indentless` allows a sequence whose dashes stand in
the column of the key before it. -/
def node (inBlock indentless : Bool) : (fuel : Nat) → Reads Node
  | 0 => failure
  | fuel + 1 => do
    match ← next? with
    | some (.alias name) =>
      pass
      resolve name
    | _ =>
      let (anchor, tag) ← properties
      anchored anchor do
        match ← next? with
        | some .blockEntry =>
          if indentless then return .sequence tag (← indentlessItems fuel)
          else if anchor.isSome || tag.isSome then empty tag
          else failure
        | some (.scalar isPlain content) =>
          pass
          count 1
          return .scalar (if tag = some "!" then none else tag) isPlain content
        | some .flowSequence =>
          pass
          return .sequence tag (← flowItems true fuel)
        | some .flowMapping =>
          pass
          return .mapping tag (← flowEntries true fuel)
        | some .blockSequence =>
          if inBlock then
            pass
            return .sequence tag (← blockItems fuel)
          else if anchor.isSome || tag.isSome then empty tag
          else failure
        | some .blockMapping =>
          if inBlock then
            pass
            return .mapping tag (← blockEntries fuel)
          else if anchor.isSome || tag.isSome then empty tag
          else failure
        | _ => if anchor.isSome || tag.isSome then empty tag else failure

/-- The items of a block sequence. -/
def blockItems : (fuel : Nat) → Reads (List Node)
  | 0 => failure
  | fuel + 1 => do
    if ← passIf .blockEnd then
      count 2
      return []
    else
      expect .blockEntry
      let item ← if ← atAny [.blockEntry, .blockEnd] then empty none else node true false fuel
      return item :: (← blockItems fuel)

/-- The items of a sequence that has no indentation of its own. -/
def indentlessItems : (fuel : Nat) → Reads (List Node)
  | 0 => failure
  | fuel + 1 => do
    if ← passIf .blockEntry then
      let item ← if ← atAny [.blockEntry, .key, .value, .blockEnd] then empty none
        else node true false fuel
      return item :: (← indentlessItems fuel)
    else
      count 2
      return []

/-- The entries of a block mapping. -/
def blockEntries : (fuel : Nat) → Reads (List (Node × Node))
  | 0 => failure
  | fuel + 1 => do
    if ← passIf .blockEnd then
      count 2
      return []
    else
      expect .key
      let isAbsent := atAny [.key, .value, .blockEnd]
      let key ← if ← isAbsent then empty none else node true true fuel
      let value ←
        if ← passIf .value then
          if ← isAbsent then empty none else node true true fuel
        else empty none
      return (key, value) :: (← blockEntries fuel)

/-- The items of a sequence in brackets; after the first each has a comma before it. -/
def flowItems (isFirst : Bool) : (fuel : Nat) → Reads (List Node)
  | 0 => failure
  | fuel + 1 => do
    if ← passIf .flowSequenceEnd then
      count 2
      return []
    else
      if isFirst = false then expect .flowEntry
      if ← passIf .flowSequenceEnd then
        count 2
        return []
      else
        let item ← if ← passIf .key then flowPair fuel else node false false fuel
        return item :: (← flowItems false fuel)

/-- A single entry in brackets, after the mark of its key: a mapping of its own. -/
def flowPair : (fuel : Nat) → Reads Node
  | 0 => failure
  | fuel + 1 => do
    count 2
    let key ←
      if ← atAny [.value, .flowEntry, .flowSequenceEnd] then
        pass
        empty none
      else node false false fuel
    let value ←
      if ← passIf .value then
        if ← atAny [.flowEntry, .flowSequenceEnd] then empty none else node false false fuel
      else empty none
    return .mapping none [(key, value)]

/-- The entries of a mapping in braces; after the first each has a comma before it. -/
def flowEntries (isFirst : Bool) : (fuel : Nat) → Reads (List (Node × Node))
  | 0 => failure
  | fuel + 1 => do
    if ← passIf .flowMappingEnd then
      count 2
      return []
    else
      if isFirst = false then expect .flowEntry
      if ← passIf .flowMappingEnd then
        count 2
        return []
      else
        let isAbsent := atAny [.flowEntry, .flowMappingEnd]
        let entry ←
          if ← passIf .key then do
            let key ←
              if ← atAny [.value, .flowEntry, .flowMappingEnd] then empty none
              else node false false fuel
            let value ←
              if ← passIf .value then
                if ← isAbsent then empty none else node false false fuel
              else empty none
            pure (key, value)
          else do
            let key ← node false false fuel
            pure (key, ← empty none)
        return entry :: (← flowEntries false fuel)

end

/-- The directives before a document: at most one version, which must be a known one, and no short
form of tags twice. -/
def directives : (fuel : Nat) → (versioned : Bool) → List (String × String) →
    Reads (List (String × String))
  | 0, _, _ => failure
  | fuel + 1, versioned, handles => do
    match ← next? with
    | some (.version major minor) =>
      if versioned ∨ major ≠ 1 ∨ (minor ≠ 1 ∧ minor ≠ 2) then failure
      else
        pass
        directives fuel true handles
    | some (.tagHandle handle lead) =>
      if (handles.lookup handle).isSome then failure
      else
        pass
        directives fuel versioned ((handle, lead) :: handles)
    | _ => return handles

/-- The short forms of tags that every document knows. -/
def commonHandles : List (String × String) :=
  [("!", "!"), ("!!", "tag:yaml.org,2002:")]

/-- The one node of a document, with the marks around it; none for a text without a document. -/
def document (fuel : Nat) : Reads (Option Node) := do
  match ← next? with
  | none => return none
  | some t =>
    let isExplicit := match t with
      | .version .. | .tagHandle .. | .documentStart => true
      | _ => false
    let handles ← directives fuel false []
    modify fun r => { r with handles := handles ++ commonHandles }
    let root ←
      if isExplicit then do
        expect .documentStart
        match ← next? with
        | none | some (.version ..) | some (.tagHandle ..) | some .documentStart
        | some .documentEnd => empty none
        | _ => node true false fuel
      else node true false fuel
    modify fun r => { r with tokens := r.tokens.dropWhile (· == .documentEnd) }
    match ← next? with
    | none => return some root
    | some _ => failure

end Reads

/-- How much more a document may stand for than it contains. -/
def maxRepetition : Nat := 100

/-- The node of a text with at most one document; `none` if the text is malformed. -/
def document? (text : String) : Option (Option Node) := do
  let tokens ← tokens? text
  let (root, r) ← (Reads.document (3 * tokens.length + 3)).run { tokens }
  if r.aliases ≤ maxRepetition * r.events then some root else none

end AnalysisSettings.Yaml
