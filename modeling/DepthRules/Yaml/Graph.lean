import DepthRules.Yaml.Content
import DepthRules.Yaml.Schema

/-!
# Nodes

A document is a graph: a node may be referred to several times, and even from inside itself. Nodes
are numbered, and sequences and mappings give the numbers of the nodes in them.
-/

namespace DepthRules.Yaml

/-- The number of a node. -/
abbrev NodeId := Nat

/-- What a node holds. -/
inductive Body where
  | scalar (content : Content)
  | sequence (items : List NodeId)
  | mapping (entries : List (NodeId × NodeId))
  deriving Repr

/-- A node: its type and what it holds. -/
structure Node where
  tag : Tag
  body : Body
  deriving Repr

/-- The scalar that stands where nothing is written. -/
def Node.nothing : Node := ⟨.null, .scalar (.text [])⟩

/-- The nodes of a document. -/
abbrev Graph := Array Node

namespace Graph

/-- The node with a number. -/
def node (graph : Graph) (n : NodeId) : Node := graph.getD n .nothing

/-- The entries of a mapping; none for any other node. -/
def entries (graph : Graph) (n : NodeId) : List (NodeId × NodeId) :=
  match (graph.node n).body with
  | .mapping entries => entries
  | _ => []

/-- The graph with another body for a node. -/
def setBody (graph : Graph) (n : NodeId) (body : Body) : Graph :=
  graph.modify n fun node => { node with body := body }

/-- The graph with another type for a node. -/
def setTag (graph : Graph) (n : NodeId) (tag : Tag) : Graph :=
  graph.modify n fun node => { node with tag := tag }

/-- Whether a node is a mapping. -/
def isMapping (graph : Graph) (n : NodeId) : Bool :=
  match (graph.node n).body with
  | .mapping _ => true
  | _ => false

end Graph

end DepthRules.Yaml
