import DepthRules.Entries

/-!
# Nodes

What rules are run over: a tree in which every node has a kind, a name, attributes, a text content
and children.
-/

namespace DepthRules

/-- The kinds of node that rules tell apart; processing instructions and entity references are
`other`. -/
inductive Node.Kind where
  | element
  | text
  | comment
  | other
  deriving DecidableEq, Repr, Inhabited

/-- The word for a kind. -/
def Node.Kind.word : Node.Kind → String
  | .element => "element"
  | .text => "text"
  | .comment => "comment"
  | .other => "other"

/-- A node as rules see it. -/
inductive Node where
  | mk (kind : Node.Kind) (name : String) (attributes : Entries String String)
      (textContent : String) (children : List Node)

namespace Node

/-- The kind of a node. -/
def kind : Node → Kind
  | .mk kind _ _ _ _ => kind

/-- The name of a node. -/
def name : Node → String
  | .mk _ name _ _ _ => name

/-- The attributes of a node. -/
def attributes : Node → Entries String String
  | .mk _ _ attributes _ _ => attributes

/-- The text content of a node. -/
def textContent : Node → String
  | .mk _ _ _ textContent _ => textContent

/-- The children of a node. -/
def children : Node → List Node
  | .mk _ _ _ _ children => children

/-- The value of an attribute; one that is empty counts as missing. -/
def attributeValue? (node : Node) (name : String) : Option String :=
  (node.attributes.get? name).filter fun value => !value.isEmpty

/-- Whether rules are tried at a child of this kind. -/
def Kind.isVisited : Kind → Bool
  | .element => true
  | .comment => true
  | _ => false

mutual

/-- All nodes of a tree with their levels, parents before children. -/
def withLevels (level : Nat) : Node → List (Nat × Node)
  | .mk kind name attributes textContent children =>
      (level, .mk kind name attributes textContent children) :: allWithLevels (level + 1) children

/-- All nodes of several trees with their levels. -/
def allWithLevels (level : Nat) : List Node → List (Nat × Node)
  | [] => []
  | node :: rest => withLevels level node ++ allWithLevels level rest

end

end Node

end DepthRules
