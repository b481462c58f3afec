import ShellVet.Yaml.Lexer
import ShellVet.Yaml.Schema

/-!
# Nodes

A node is a scalar, a sequence or a mapping with its tag. `nodeOf` reads the nodes off the tokens of
a text and puts the node of an anchor where its aliases stand. An alias inside its own anchor, whose
node is still being read, stays as a mark with the name; the nodes of all anchors go with the root.
A text holds one document or none. Only so many collections can be open inside each other as the
stack has room for.
-/

namespace ShellVet.Yaml

/-- A node. -/
inductive Node where
  | scalar (tag : Tag) (text : CodeText)
  | sequence (tag : Tag) (items : List Node)
  | mapping (tag : Tag) (members : List (Node × Node))
  /-- An alias inside its own anchor, which stands for a collection that it is in. -/
  | enclosing (name : String)
  deriving Repr

/-- The nodes of anchors by name. -/
abbrev Anchored := List (String × Node)

/-- What reading nodes keeps track of. -/
structure Reading where
  tokens : List Token
  /-- The fault behind the last token. -/
  fault : Option Fault
  /-- What the handles of tags stand for. -/
  handles : List (String × String) := []
  /-- The nodes of anchors, none while they are being read. -/
  anchors : List (String × Option Node) := []

/-- A step of reading. -/
abbrev NodeReader := StateT Reading (Except Fault)

namespace NodeReader

/-- The document is malformed. -/
def malformed {α : Type} : NodeReader α := throw .malformed

/-- The next token, which stays. -/
def peek : NodeReader Token := do
  let reading ← get
  match reading.tokens with
  | token :: _ => return token
  | [] => throw (reading.fault.getD .malformed)

/-- Drops the next token. -/
def skip : NodeReader Unit :=
  modify fun reading => { reading with tokens := reading.tokens.drop 1 }

/-- Drops the next token if it is the given one. -/
def accept (token : Token) : NodeReader Bool := do
  if (← peek) = token then skip; return true
  else return false

/-- Drops the next token, which has to be the given one. -/
def expect (token : Token) : NodeReader Unit := do
  unless ← accept token do malformed

/-- Whether the next token is one of the given ones. -/
def nextIn (tokens : List Token) : NodeReader Bool := do
  return tokens.contains (← peek)

/-- The node where a text has none. -/
def emptyNode : Node := .scalar .null (.ofChars [])

/-- Anchor and tag of a node. -/
structure Properties where
  anchor : Option String := none
  tag : Option (Option String × String) := none

/-- An anchor, if it comes next. -/
def readAnchor (properties : Properties) : NodeReader Properties := do
  match ← peek with
  | .anchor name => skip; return { properties with anchor := some name }
  | _ => return properties

/-- A tag, if it comes next. -/
def readTag (properties : Properties) : NodeReader Properties := do
  match ← peek with
  | .tag handle suffix => skip; return { properties with tag := some (handle, suffix) }
  | _ => return properties

/-- Anchor and tag, in either order. -/
def readProperties : NodeReader Properties := do
  match ← peek with
  | .anchor _ => readTag (← readAnchor {})
  | .tag .. => readAnchor (← readTag {})
  | _ => return {}

/-- The full name of a tag; none for a node without a tag. -/
def tagName (properties : Properties) : NodeReader (Option String) := do
  match properties.tag with
  | none => return none
  | some (none, suffix) => return some suffix
  | some (some handle, suffix) =>
    match (← get).handles.lookup handle with
    | some tagPrefix => return some (tagPrefix ++ suffix)
    | none => malformed

/-- The tag that leaves the choice to the text. -/
def openTag : String := "!"

/-- The tag of a scalar. -/
def scalarTag (name : Option String) (text : CodeText) (plain : Bool) : Tag :=
  match name with
  | none => if plain then implicitTag text.legible else .str
  | some name => if name == openTag then implicitTag text.legible else .ofName name

/-- The tag of a collection. -/
def collectionTag (name : Option String) (fallback : Tag) : Tag :=
  match name with
  | none => fallback
  | some name => if name == openTag then fallback else .ofName name

/-- Marks an anchor as being read. No anchor comes twice. -/
def openAnchor : Option String → NodeReader Unit
  | none => return ()
  | some name => do
    if ((← get).anchors.lookup name).isSome then malformed
    modify fun reading => { reading with anchors := (name, none) :: reading.anchors }

/-- Keeps the node of an anchor. -/
def closeAnchor (anchor : Option String) (node : Node) : NodeReader Node := do
  match anchor with
  | none => return node
  | some name =>
    modify fun reading => { reading with anchors := (name, some node) :: reading.anchors }
    return node

/-- The node that an alias stands for. -/
def aliased (name : String) : NodeReader Node := do
  match (← get).anchors.lookup name with
  | some (some node) => return node
  | some none => return .enclosing name
  | none => malformed

/-- Opens one more collection inside the others. Gives the room that is left. -/
def enter : Nat → NodeReader Nat
  | 0 => throw .tooDeep
  | room + 1 => return room

/-- Where a node stands: outside of brackets, there under a key, where a sequence need not be
indented, or in brackets. -/
inductive Context where
  | block
  | underKey
  | flow
  deriving DecidableEq, Repr

mutual

/-- A node. -/
def node : Nat → Nat → Context → NodeReader Node
  | 0, _, _ => malformed
  | fuel + 1, room, context => do
    if let .alias name ← peek then
      skip
      return ← aliased name
    let properties ← readProperties
    let name ← tagName properties
    openAnchor properties.anchor
    let next ← peek
    let found ←
      if context = .underKey && next = .blockEntry then
        let room ← enter room
        pure (.sequence (collectionTag name .seq) (← indentless fuel room))
      else match next with
        | .scalar text plain =>
          skip
          pure (.scalar (scalarTag name text plain) text)
        | .flowSequenceStart =>
          skip
          let room ← enter room
          pure (.sequence (collectionTag name .seq) (← flowItems fuel room true))
        | .flowMappingStart =>
          skip
          let room ← enter room
          pure (.mapping (collectionTag name .map) (← flowMembers fuel room true))
        | _ =>
          if context ≠ .flow && next = .blockSequenceStart then
            skip
            let room ← enter room
            pure (.sequence (collectionTag name .seq) (← blockItems fuel room))
          else if context ≠ .flow && next = .blockMappingStart then
            skip
            let room ← enter room
            pure (.mapping (collectionTag name .map) (← blockMembers fuel room))
          else if properties.anchor.isSome || name.isSome then
            pure (.scalar (scalarTag name (.ofChars []) name.isNone) (.ofChars []))
          else malformed
    closeAnchor properties.anchor found

/-- A node, unless one of some tokens comes next. -/
def nodeUnless : Nat → Nat → Context → List Token → NodeReader Node
  | 0, _, _, _ => malformed
  | fuel + 1, room, context, tokens => do
    if ← nextIn tokens then return emptyNode else node fuel room context

/-- The items of a block sequence and its end. -/
def blockItems : Nat → Nat → NodeReader (List Node)
  | 0, _ => malformed
  | fuel + 1, room => do
    if ← accept .blockEntry then
      let item ← nodeUnless fuel room .block [.blockEntry, .blockEnd]
      return item :: (← blockItems fuel room)
    else
      expect .blockEnd
      return []

/-- The items of a sequence that is not indented. -/
def indentless : Nat → Nat → NodeReader (List Node)
  | 0, _ => malformed
  | fuel + 1, room => do
    if ← accept .blockEntry then
      let item ← nodeUnless fuel room .block [.blockEntry, .key, .value, .blockEnd]
      return item :: (← indentless fuel room)
    else return []

/-- The members of a block mapping and its end. -/
def blockMembers : Nat → Nat → NodeReader (List (Node × Node))
  | 0, _ => malformed
  | fuel + 1, room => do
    let ends : List Token := [.key, .value, .blockEnd]
    if ← accept .blockEnd then return []
    let key ←
      if ← accept .key then nodeUnless fuel room .underKey ends else malformed
    let value ← if ← accept .value then nodeUnless fuel room .underKey ends else pure emptyNode
    return (key, value) :: (← blockMembers fuel room)

/-- The items between square brackets and the closing one. A key makes a mapping of one member. -/
def flowItems : Nat → Nat → Bool → NodeReader (List Node)
  | 0, _, _ => malformed
  | fuel + 1, room, first => do
    if ← accept .flowSequenceEnd then return []
    if !first then expect .flowEntry
    if ← accept .flowSequenceEnd then return []
    let item ←
      if ← accept .key then
        let room ← enter room
        let key ← nodeUnless fuel room .flow [.value, .flowEntry, .flowSequenceEnd]
        let value ←
          if ← accept .value then nodeUnless fuel room .flow [.flowEntry, .flowSequenceEnd]
          else pure emptyNode
        pure (.mapping .map [(key, value)])
      else node fuel room .flow
    return item :: (← flowItems fuel room false)

/-- The members between braces and the closing one. -/
def flowMembers : Nat → Nat → Bool → NodeReader (List (Node × Node))
  | 0, _, _ => malformed
  | fuel + 1, room, first => do
    if ← accept .flowMappingEnd then return []
    if !first then expect .flowEntry
    if ← accept .flowMappingEnd then return []
    let ends : List Token := [.flowEntry, .flowMappingEnd]
    let member ←
      if ← accept .key then
        let key ← nodeUnless fuel room .flow (.value :: ends)
        let value ← if ← accept .value then nodeUnless fuel room .flow ends else pure emptyNode
        pure (key, value)
      else pure (← node fuel room .flow, emptyNode)
    return member :: (← flowMembers fuel room false)

end

/-- The handles that every document has. -/
def commonHandles : List (String × String) := [("!", "!"), ("!!", tagNamespace)]

/-- The directives of a document. The version comes at most once, and so does each handle. -/
def directives : Nat → Bool → List (String × String) → NodeReader (List (String × String))
  | 0, _, _ => malformed
  | fuel + 1, versioned, handles => do
    match ← peek with
    | .directive (.version major) =>
      skip
      if versioned || major ≠ 1 then malformed else directives fuel true handles
    | .directive (.tag handle tagPrefix) =>
      skip
      if (handles.lookup handle).isSome then malformed
      else directives fuel versioned ((handle, tagPrefix) :: handles)
    | .directive .other =>
      skip
      directives fuel versioned handles
    | _ => return handles

/-- Drops the marks that end documents. -/
def documentEnds : Nat → NodeReader Unit
  | 0 => return ()
  | fuel + 1 => do
    if ← accept .documentEnd then documentEnds fuel

/-- The rest of the text after a document, which holds no further one. -/
def finish (fuel : Nat) : NodeReader Unit := do
  documentEnds fuel
  expect .streamEnd

/-- The one document of a text; none if the text holds none. -/
def document (room : Nat) : NodeReader (Option Node) := do
  let fuel := 4 * (← get).tokens.length + 4
  let isImplicit := match ← peek with
    | .directive _ | .documentStart | .streamEnd => false
    | _ => true
  if isImplicit then
    modify fun reading => { reading with handles := commonHandles }
    let root ← node fuel room .block
    finish fuel
    return some root
  if ← accept .streamEnd then return none
  let handles ← directives fuel false []
  expect .documentStart
  modify fun reading => { reading with handles := handles ++ commonHandles }
  let isEmpty := match ← peek with
    | .directive _ | .documentStart | .documentEnd | .streamEnd => true
    | _ => false
  let root ← if isEmpty then pure emptyNode else node fuel room .block
  finish fuel
  return some root

end NodeReader

/-- The nodes of the anchors that have been read. -/
def Reading.anchored (reading : Reading) : Anchored :=
  reading.anchors.filterMap fun (name, node) => node.map (name, ·)

/-- The node of the document that a text holds, none if it holds none, and the nodes of its
anchors. -/
def nodeOf (room : Nat) (text : List Char) : Except Fault (Option Node × Anchored) :=
  if text.all isAllowed then
    let (tokens, fault) := tokensOf text
    ((NodeReader.document room).run { tokens, fault }).map fun (root, reading) =>
      (root, reading.anchored)
  else .error .malformed

end ShellVet.Yaml
