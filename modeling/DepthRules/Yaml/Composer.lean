import DepthRules.Yaml.Graph
import DepthRules.Yaml.Token

/-!
# From tokens to nodes

The tokens of a document are put together to its graph of nodes. Where an item, a key or a value is
left out stands the node that is nothing. An anchor can be used as soon as its node has begun, so
that a collection may refer to itself.
-/

namespace DepthRules.Yaml

/-- Where putting together a document stands: the tokens to come, the nodes so far, the nodes with
anchors, and what the handles of tags stand for. -/
structure Composer where
  tokens : List Token
  graph : Graph
  anchors : List (String × NodeId)
  handles : List (String × String)

/-- A step of putting together a document. -/
abbrev Compose (α : Type) := StateT Composer (Except Fault) α

namespace Compose

/-- The document is not well-formed. -/
def fail {α : Type} : Compose α := throw .malformed

/-- The token to come. -/
def peek : Compose Token := do
  match (← get).tokens with
  | .broken fault :: _ => throw fault
  | t :: _ => return t
  | [] => fail

/-- Passes over a token. -/
def next : Compose Unit := modify fun c => { c with tokens := c.tokens.drop 1 }

/-- Whether the token to come is one of these. -/
def isAt (choices : List Token) : Compose Bool := return choices.contains (← peek)

/-- Passes over a token that has to stand here. -/
def expect (t : Token) : Compose Unit := do
  if (← peek) == t then next else fail

/-- Adds a node. -/
def add (node : Node) : Compose NodeId := do
  let c ← get
  set { c with graph := c.graph.push node }
  return c.graph.size

/-- Gives an anchor, if there is one, to a node. -/
def keep (anchor : Option String) (n : NodeId) : Compose NodeId := do
  match anchor with
  | none => return n
  | some name =>
      modify fun c => { c with anchors := (name, n) :: c.anchors }
      return n

/-- Sets what a node holds. -/
def fill (n : NodeId) (body : Body) : Compose NodeId := do
  modify fun c => { c with graph := c.graph.setBody n body }
  return n

/-- The node an alias refers to. -/
def aliased (name : String) : Compose NodeId := do
  match (← get).anchors.lookup name with
  | some n => return n
  | none => fail

/-- The anchor of a node, which must not be in use. -/
def fresh (anchor : Option String) : Compose Unit := do
  match anchor with
  | none => return ()
  | some name => if ((← get).anchors.lookup name).isSome then fail

/-- The anchor that stands here. -/
def anchor? : Compose (Option String) := do
  match ← peek with
  | .anchor name =>
      next
      return some name
  | _ => return none

/-- The tag that stands here. -/
def tag? : Compose (Option WrittenTag) := do
  match ← peek with
  | .tag written =>
      next
      return some written
  | _ => return none

/-- A tag written out. -/
def writtenOut : Option WrittenTag → Compose (Option String)
  | none => return none
  | some written => do
      match written.handle with
      | none => return some written.suffix
      | some handle =>
          match (← get).handles.lookup handle with
          | some start => return some (start ++ written.suffix)
          | none => fail

/-- The anchor and the tag of a node, in either order. -/
def properties : Compose (Option String × Option String) := do
  match ← anchor? with
  | some name => return (some name, ← writtenOut (← tag?))
  | none =>
      match ← tag? with
      | none => return (none, none)
      | some written =>
          let anchor ← anchor?
          return (anchor, ← writtenOut (some written))

/-- The type a written tag gives to a node, where `untagged` is its type without one. A lone
exclamation mark counts as no tag. -/
def typeOf (tag : Option String) (untagged : Tag) : Tag :=
  match tag with
  | none => untagged
  | some name => if name == "!" then untagged else .ofName name

/-- The type of a scalar. One with a lone exclamation mark is taken as plain. -/
def scalarType (tag : Option String) (plain : Bool) (content : Content) : Tag :=
  match content with
  | .text chars => typeOf tag (if plain || tag == some "!" then .ofPlain chars else .str)
  | .codes _ => typeOf tag .str

/-- Tokens after which the item of a block sequence is missing. -/
def afterItem : List Token := [.blockEntry, .blockEnd]

/-- Tokens after which the item of a sequence that is not indented is missing. -/
def afterLooseItem : List Token := [.blockEntry, .key, .value, .blockEnd]

/-- Tokens after which the key or the value of a block mapping is missing. -/
def afterBlockPart : List Token := [.key, .value, .blockEnd]

/-- Tokens after which the key of a mapping between braces is missing. -/
def afterFlowKey : List Token := [.value, .flowEntry, .flowMappingEnd]

/-- Tokens after which the value of a mapping between braces is missing. -/
def afterFlowValue : List Token := [.flowEntry, .flowMappingEnd]

/-- Tokens after which the key of a single entry in a sequence is missing. -/
def afterPairKey : List Token := [.value, .flowEntry, .flowSequenceEnd]

/-- Tokens after which the value of a single entry in a sequence is missing. -/
def afterPairValue : List Token := [.flowEntry, .flowSequenceEnd]

mutual

/-- The node that stands here. Outside brackets it may be a block, and as a part of a mapping also a
sequence that is not indented. Every call takes one unit of fuel. -/
def node : Nat → Bool → Bool → Compose NodeId
  | 0, _, _ => fail
  | fuel + 1, block, loose => do
      match ← peek with
      | .alias name =>
          next
          aliased name
      | _ =>
          let (anchor, tag) ← properties
          let content ← peek
          fresh anchor
          match content, block, loose with
          | .blockEntry, _, true => do
              let n ← keep anchor (← add ⟨typeOf tag .seq, .sequence []⟩)
              fill n (.sequence (← looseItems fuel))
          | .scalar plain content, _, _ => do
              next
              keep anchor (← add ⟨scalarType tag plain content, .scalar content⟩)
          | .flowSequence, _, _ => do
              next
              let n ← keep anchor (← add ⟨typeOf tag .seq, .sequence []⟩)
              fill n (.sequence (← flowItems fuel true))
          | .flowMapping, _, _ => do
              next
              let n ← keep anchor (← add ⟨typeOf tag .map, .mapping []⟩)
              fill n (.mapping (← flowEntries fuel true))
          | .blockSequence, true, _ => do
              next
              let n ← keep anchor (← add ⟨typeOf tag .seq, .sequence []⟩)
              fill n (.sequence (← blockItems fuel))
          | .blockMapping, true, _ => do
              next
              let n ← keep anchor (← add ⟨typeOf tag .map, .mapping []⟩)
              fill n (.mapping (← blockEntries fuel))
          | _, _, _ =>
              if anchor.isNone && tag.isNone then fail
              else keep anchor (← add { Node.nothing with tag := typeOf tag .null })

/-- A node, or the one that is nothing where one of the tokens `missing` stands. -/
def nodeUnless : Nat → List Token → Bool → Bool → Compose NodeId
  | 0, _, _, _ => fail
  | fuel + 1, missing, block, loose => do
      if ← isAt missing then add .nothing else node fuel block loose

/-- A colon and the value after it; nothing where there is no colon. -/
def valueAfterColon : Nat → List Token → Bool → Bool → Compose NodeId
  | 0, _, _, _ => fail
  | fuel + 1, missing, block, loose => do
      if ← isAt [.value] then
        next
        nodeUnless fuel missing block loose
      else add .nothing

/-- The items of a block sequence up to its end. -/
def blockItems : Nat → Compose (List NodeId)
  | 0 => fail
  | fuel + 1 => do
      match ← peek with
      | .blockEntry =>
          next
          let item ← nodeUnless fuel afterItem true false
          return item :: (← blockItems fuel)
      | .blockEnd =>
          next
          return []
      | _ => fail

/-- The items of a sequence that is not indented. -/
def looseItems : Nat → Compose (List NodeId)
  | 0 => fail
  | fuel + 1 => do
      if ← isAt [.blockEntry] then
        next
        let item ← nodeUnless fuel afterLooseItem true false
        return item :: (← looseItems fuel)
      else return []

/-- The entries of a block mapping up to its end. -/
def blockEntries : Nat → Compose (List (NodeId × NodeId))
  | 0 => fail
  | fuel + 1 => do
      match ← peek with
      | .key =>
          next
          let key ← nodeUnless fuel afterBlockPart true true
          let value ← valueAfterColon fuel afterBlockPart true true
          return (key, value) :: (← blockEntries fuel)
      | .blockEnd =>
          next
          return []
      | _ => fail

/-- The items of a sequence between brackets, up to its end. An item may be a single entry of a
mapping. -/
def flowItems : Nat → Bool → Compose (List NodeId)
  | 0, _ => fail
  | fuel + 1, first => do
      if ← isAt [.flowSequenceEnd] then
        next
        return []
      unless first do expect .flowEntry
      match ← peek with
      | .flowSequenceEnd =>
          next
          return []
      | .key =>
          next
          let pair ← add ⟨.map, .mapping []⟩
          let key ← nodeUnless fuel afterPairKey false false
          let value ← valueAfterColon fuel afterPairValue false false
          let item ← fill pair (.mapping [(key, value)])
          return item :: (← flowItems fuel false)
      | _ =>
          let item ← node fuel false false
          return item :: (← flowItems fuel false)

/-- The entries of a mapping between braces, up to its end. A key may stand without a colon. -/
def flowEntries : Nat → Bool → Compose (List (NodeId × NodeId))
  | 0, _ => fail
  | fuel + 1, first => do
      if ← isAt [.flowMappingEnd] then
        next
        return []
      unless first do expect .flowEntry
      match ← peek with
      | .flowMappingEnd =>
          next
          return []
      | .key =>
          next
          let key ← nodeUnless fuel afterFlowKey false false
          let value ← valueAfterColon fuel afterFlowValue false false
          return (key, value) :: (← flowEntries fuel false)
      | _ =>
          let key ← node fuel false false
          let value ← add .nothing
          return (key, value) :: (← flowEntries fuel false)

end

/-- The handles every document has. -/
def defaultHandles : List (String × String) := [("!", "!"), ("!!", standardStart)]

/-- The directives before a document. The version may be told once, and must be one of the first. -/
def directives : Nat → Bool → Compose Unit
  | 0, _ => fail
  | fuel + 1, versionTold => do
      match ← peek with
      | .directive d =>
          next
          match d with
          | .version major =>
              if versionTold || major ≠ 1 then fail
              directives fuel true
          | .handle handle start =>
              if ((← get).handles.lookup handle).isSome then fail
              modify fun c => { c with handles := (handle, start) :: c.handles }
              directives fuel versionTold
          | .other => directives fuel versionTold
      | _ => return ()

/-- Passes over markers of the end of a document. -/
def documentEnds : Nat → Compose Unit
  | 0 => fail
  | fuel + 1 => do
      if ← isAt [.documentEnd] then
        next
        documentEnds fuel

/-- The end of the text, where no second document may begin. -/
def onlyDocument (fuel : Nat) : Compose Unit := do
  documentEnds fuel
  unless ← isAt [.streamEnd] do
    modify fun c => { c with handles := [] }
    directives fuel false
    fail

/-- The root of the one document there is; none if there is no document. -/
def document (fuel : Nat) : Compose (Option NodeId) := do
  let root ←
    match ← peek with
    | .streamEnd => return none
    | .directive _ | .documentStart => do
        modify fun c => { c with handles := [] }
        directives fuel false
        modify fun c => { c with handles := c.handles ++ defaultHandles }
        expect .documentStart
        match ← peek with
        | .directive _ | .documentStart | .documentEnd | .streamEnd => add .nothing
        | _ => node fuel true false
    | _ => node fuel true false
  onlyDocument fuel
  return some root

end Compose

/-- The graph that tokens make up, and its root if they are a document. -/
def compose (tokens : List Token) : Except Fault (Graph × Option NodeId) := do
  let start : Composer := ⟨tokens, #[], [], Compose.defaultHandles⟩
  let (root, composer) ← (Compose.document (3 * tokens.length + 3)).run start
  return (composer.graph, root)

end DepthRules.Yaml
