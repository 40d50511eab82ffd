import LogHarvest.Yaml.Resolve

/-!
# Nodes

A document is a tree of nodes: scalars, sequences and mappings, each with the tag that says what it means. An alias is
replaced by the node it names. Inside that node itself it cannot be, and becomes a reference to the enclosing node,
by the depth at which that stands.

The tree is built by one pass over the tokens that follows the grammar. Tokens are asked for one at a time, so a fault
of the grammar comes before a fault of the text further on. `fuel` bounds the depth of calls; each call but a few takes
a token, so four per token are more than enough.
-/

namespace LogHarvest.Yaml

/-- A node of a document. -/
inductive Node
  | scalar (tag value : Text)
  | sequence (tag : Text) (items : List Node)
  | mapping (tag : Text) (entries : List (Node × Node))
  | enclosing (depth : Nat) (isMap : Bool)
deriving Repr, Inhabited

/-- What an anchor names: a finished node, or one that is being built at some depth. -/
inductive Anchored
  | finished (node : Node)
  | building (depth : Nat) (isMap : Bool)

/-- The tokens still to come, what the document has defined so far, and how deep it may be nested. -/
structure Builder where
  tokens : TokenList
  anchors : List (Text × Anchored)
  handles : List (Text × Text)
  depth : Nat
  depthLimit : Nat

/-- A step of the building. -/
abbrev Build := StateT Builder (Except Fault)

namespace Build

/-- The next token. Behind the last one there is the fault of the text. -/
def peek : Build Token := do
  let s ← get
  match s.tokens.tokens with
  | t :: _ => return t
  | [] => throw (s.tokens.fault.getD .grammar)

/-- Takes the next token. -/
def take : Build Unit :=
  modify fun s => { s with tokens := { s.tokens with tokens := s.tokens.tokens.drop 1 } }

/-- Takes the next token if it is `t`. -/
def takeIf (t : Token) : Build Bool := do
  if (← peek) = t then
    take
    return true
  else return false

/-- Takes the next token, which must be `t`. -/
def expect (t : Token) : Build Unit := do
  if !(← takeIf t) then throw .grammar

/-- The scalar where a node is missing. -/
def absent : Node := .scalar Tag.null []

/-! ## Anchors and tags -/

/-- The anchor and the tag in front of a node, in either order. -/
def properties : Build (Option Text × Option (Option Text × Text)) := do
  match ← peek with
  | .anchor a =>
    take
    match ← peek with
    | .tag h s =>
      take
      return (some a, some (h, s))
    | _ => return (some a, none)
  | .tag h s =>
    take
    match ← peek with
    | .anchor a =>
      take
      return (some a, some (h, s))
    | _ => return (none, some (h, s))
  | _ => return (none, none)

/-- The tag that a handle and a suffix stand for. -/
def fullTag : Option (Option Text × Text) → Build (Option Text)
  | none => return none
  | some (none, suffix) => return some suffix
  | some (some handle, suffix) => do
    match (← get).handles.lookup handle with
    | some start => return some (start ++ suffix)
    | none => throw .grammar

/-- A tag of one exclamation mark asks for the usual meaning. -/
def explicitTag (tag : Option Text) : Option Text := tag.filter fun t => t ≠ Text.ofString "!"

/-- Refuses an anchor that is in use. -/
def checkAnchor (anchor : Option Text) : Build Unit := do
  match anchor with
  | some a => if ((← get).anchors.lookup a).isSome then throw .graph
  | none => return

/-- Lets an anchor name something. -/
def bind (anchor : Option Text) (what : Anchored) : Build Unit :=
  match anchor with
  | some a => modify fun s => { s with anchors := (a, what) :: s.anchors }
  | none => return

/-- Builds a container: its anchor names it while its parts are built, one level further down. -/
def container (anchor : Option Text) (isMap : Bool) (parts : Build Node) : Build Node := do
  let s ← get
  let depth := s.depth
  if s.depthLimit ≤ depth then throw .tooDeep
  bind anchor (.building depth isMap)
  modify fun s => { s with depth := depth + 1 }
  let node ← parts
  modify fun s => { s with depth := depth }
  bind anchor (.finished node)
  return node

/-! ## The grammar -/

mutual

/-- A node. In a block it may be a block itself, and behind a key a sequence without indentation of its own. -/
def node : Nat → Bool → Bool → Build Node
  | 0, _, _ => throw .tooDeep
  | fuel + 1, inBlock, behindKey => do
    match ← peek with
    | .alias name =>
      take
      match (← get).anchors.lookup name with
      | some (.finished n) => return n
      | some (.building depth isMap) => return .enclosing depth isMap
      | none => throw .graph
    | _ =>
      let (anchor, written) ← properties
      let tag ← fullTag written
      let sequenceTag := (explicitTag tag).getD Tag.seq
      let mappingTag := (explicitTag tag).getD Tag.map
      match ← peek, inBlock, behindKey with
      | .blockEntry, _, true =>
        checkAnchor anchor
        container anchor false do return .sequence sequenceTag (← looseItems fuel)
      | .scalar value plain, _, _ =>
        take
        checkAnchor anchor
        let resolved := match explicitTag tag with
          | some t => t
          | none => if plain || tag.isSome then Tag.resolve value else Tag.str
        bind anchor (.finished (.scalar resolved value))
        return .scalar resolved value
      | .flowSequenceStart, _, _ =>
        checkAnchor anchor
        container anchor false do
          take
          return .sequence sequenceTag (← flowItems fuel true)
      | .flowMappingStart, _, _ =>
        checkAnchor anchor
        container anchor true do
          take
          return .mapping mappingTag (← flowEntries fuel true)
      | .blockSequenceStart, true, _ =>
        checkAnchor anchor
        container anchor false do
          take
          return .sequence sequenceTag (← blockItems fuel)
      | .blockMappingStart, true, _ =>
        checkAnchor anchor
        container anchor true do
          take
          return .mapping mappingTag (← blockEntries fuel)
      | _, _, _ =>
        if anchor.isNone && tag.isNone then throw .grammar
        checkAnchor anchor
        let n := Node.scalar ((explicitTag tag).getD (Tag.resolve [])) []
        bind anchor (.finished n)
        return n

/-- The entries of a block sequence, up to the end of the block. -/
def blockItems : Nat → Build (List Node)
  | 0 => throw .tooDeep
  | fuel + 1 => do
    if ← takeIf .blockEntry then
      let item ← match ← peek with
        | .blockEntry | .blockEnd => pure absent
        | _ => node fuel true false
      return item :: (← blockItems fuel)
    else
      expect .blockEnd
      return []

/-- The entries of a sequence behind a key that stands at the column of the key. -/
def looseItems : Nat → Build (List Node)
  | 0 => throw .tooDeep
  | fuel + 1 => do
    if ← takeIf .blockEntry then
      let item ← match ← peek with
        | .blockEntry | .key | .value | .blockEnd => pure absent
        | _ => node fuel true false
      return item :: (← looseItems fuel)
    else return []

/-- The entries of a block mapping, up to the end of the block. -/
def blockEntries : Nat → Build (List (Node × Node))
  | 0 => throw .tooDeep
  | fuel + 1 => do
    if ← takeIf .key then
      let key ← blockPart fuel
      let value ← if ← takeIf .value then blockPart fuel else pure absent
      return (key, value) :: (← blockEntries fuel)
    else
      expect .blockEnd
      return []

/-- A key or a value of a block mapping, which may be missing. -/
def blockPart : Nat → Build Node
  | 0 => throw .tooDeep
  | fuel + 1 => do
    match ← peek with
    | .key | .value | .blockEnd => return absent
    | _ => node fuel true true

/-- The items of a sequence in brackets, up to the closing one. A key makes an item a mapping of one entry. -/
def flowItems : Nat → Bool → Build (List Node)
  | 0, _ => throw .tooDeep
  | fuel + 1, first => do
    if ← takeIf .flowSequenceEnd then return []
    if !first then expect .flowEntry
    match ← peek with
    | .key =>
      let item ← container none true do
        take
        let key ← flowPart fuel .flowSequenceEnd true
        let value ← if ← takeIf .value then flowPart fuel .flowSequenceEnd false else pure absent
        return .mapping Tag.map [(key, value)]
      return item :: (← flowItems fuel false)
    | .flowSequenceEnd =>
      take
      return []
    | _ =>
      let item ← node fuel false false
      return item :: (← flowItems fuel false)

/-- The entries of a mapping in braces, up to the closing one. -/
def flowEntries : Nat → Bool → Build (List (Node × Node))
  | 0, _ => throw .tooDeep
  | fuel + 1, first => do
    if ← takeIf .flowMappingEnd then return []
    if !first then expect .flowEntry
    match ← peek with
    | .key =>
      take
      let key ← flowPart fuel .flowMappingEnd true
      let value ← if ← takeIf .value then flowPart fuel .flowMappingEnd false else pure absent
      return (key, value) :: (← flowEntries fuel false)
    | .flowMappingEnd =>
      take
      return []
    | _ =>
      let key ← node fuel false false
      return (key, absent) :: (← flowEntries fuel false)

/-- A key or a value between brackets, which may be missing. -/
def flowPart : Nat → Token → Bool → Build Node
  | 0, _, _ => throw .tooDeep
  | fuel + 1, closing, isKey => do
    let t ← peek
    if t = closing || t = .flowEntry || (isKey && t = .value) then return absent
    node fuel false false

end

/-! ## Documents -/

/-- The handles that every document knows. -/
def standardHandles : List (Text × Text) :=
  [(Text.ofString "!", Text.ofString "!"), (Text.ofString "!!", Tag.standard)]

/-- Reads the directives in front of a document: at most one version, which must be 1, and handles that differ. -/
def directives : Nat → Bool → List (Text × Text) → Build (List (Text × Text))
  | 0, _, _ => throw .tooDeep
  | fuel + 1, hasVersion, handles => do
    match ← peek with
    | .directive (.version major _) =>
      take
      if hasVersion || major ≠ 1 then throw .grammar
      directives fuel true handles
    | .directive (.tagHandle handle start) =>
      take
      if (handles.lookup handle).isSome then throw .grammar
      directives fuel hasVersion (handles ++ [(handle, start)])
    | .directive .other =>
      take
      directives fuel hasVersion handles
    | _ => return handles

/-- Skips the marks that end a document. -/
def skipDocumentEnds : Nat → Build Unit
  | 0 => throw .tooDeep
  | fuel + 1 => do
    if ← takeIf .documentEnd then skipDocumentEnds fuel

/-- What follows the first document: nothing, or what may not follow. -/
def afterDocument (fuel : Nat) : Build Unit := do
  let _ ← takeIf .documentEnd
  skipDocumentEnds fuel
  if (← peek) = .textEnd then return
  let _ ← directives fuel false []
  expect .documentStart
  throw .graph

/-- The root of the only document, if there is a document. -/
def root (fuel : Nat) : Build (Option Node) := do
  match ← peek with
  | .textEnd => return none
  | .directive _ | .documentStart =>
    let handles ← directives fuel false []
    expect .documentStart
    modify fun s =>
      { s with handles := handles ++ standardHandles.filter fun h => (handles.lookup h.1).isNone }
    let n ← match ← peek with
      | .directive _ | .documentStart | .documentEnd | .textEnd => pure absent
      | _ => node fuel true false
    afterDocument fuel
    return some n
  | _ =>
    let n ← node fuel true false
    afterDocument fuel
    return some n

end Build

/-- The root of the document that a text holds, if it holds one. -/
def Node.ofText (depthLimit : Nat) (text : List Char) : Except Fault (Option Node) :=
  let tokens := TokenList.ofText text
  let fuel := 4 * tokens.tokens.length + 8
  (Build.root fuel ⟨tokens, [], Build.standardHandles, 0, depthLimit⟩).map (·.1)

end LogHarvest.Yaml
