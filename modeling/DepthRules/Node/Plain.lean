import DepthRules.Node.Basic

/-!
# Trees built by hand

A plain node holds its own text beside its children. The text content of an element joins its own
text with that of every element and text below it, in document order; below comments and other nodes
nothing is collected. `textContent` collects with a list of nodes still to be read, so that its
depth does not grow with the tree.
-/

namespace DepthRules

/-- A node with a text of its own. -/
inductive PlainNode where
  | mk (kind : Node.Kind) (name : String) (attributes : Entries String String) (text : String)
      (children : List PlainNode)

namespace PlainNode

/-- The kind of a node. -/
def kind : PlainNode → Node.Kind
  | .mk kind _ _ _ _ => kind

/-- The own text of a node. -/
def text : PlainNode → String
  | .mk _ _ _ text _ => text

/-- The children of a node. -/
def children : PlainNode → List PlainNode
  | .mk _ _ _ _ children => children

/-- An element without text of its own. -/
def element (name : String) (attributes : Entries String String) (children : List PlainNode) :
    PlainNode :=
  .mk .element name attributes "" children

/-- A text. -/
def textNode (text : String) : PlainNode := .mk .text "#text" [] text []

instance : Inhabited PlainNode := ⟨textNode ""⟩

/-- A comment. -/
def comment (text : String) : PlainNode := .mk .comment "#comment" [] text []

/-- Whether the text of a child belongs to the text content of its parent. -/
def isCollected (node : PlainNode) : Bool :=
  match node.kind with
  | .element => true
  | .text => true
  | _ => false

mutual

/-- The number of nodes of a tree. -/
def size : PlainNode → Nat
  | .mk _ _ _ _ children => 1 + sizeAll children

/-- The number of nodes of several trees. -/
def sizeAll : List PlainNode → Nat
  | [] => 0
  | node :: rest => size node + sizeAll rest

end

theorem sizeAll_append (xs ys : List PlainNode) : sizeAll (xs ++ ys) = sizeAll xs + sizeAll ys := by
  induction xs with
  | nil => simp [sizeAll]
  | cons x rest ih => simp [sizeAll, ih]; omega

theorem sizeAll_filter_le (p : PlainNode → Bool) (xs : List PlainNode) :
    sizeAll (xs.filter p) ≤ sizeAll xs := by
  induction xs with
  | nil => simp
  | cons x rest ih =>
      by_cases h : p x <;> simp [h, sizeAll] <;> omega

theorem size_eq (node : PlainNode) : node.size = 1 + sizeAll node.children := by
  cases node; rfl

/-- The own texts of the nodes to be read and of everything collected below them; `done` holds the
texts read before, last first. -/
def collect (waiting : List PlainNode) (done : List String) : List String :=
  match waiting with
  | [] => done.reverse
  | node :: rest => collect (node.children.filter isCollected ++ rest) (node.text :: done)
  termination_by sizeAll waiting
  decreasing_by
    have := sizeAll_filter_le isCollected node.children
    simp only [sizeAll_append, sizeAll, size_eq]
    omega

/-- The text content of a node: for an element its own text and the texts below it, for any other
node its own text. -/
def textContent (node : PlainNode) : String :=
  if node.kind = .element then "".intercalate (collect [node] []) else node.text

mutual

/-- A plain node as rules see it. -/
def toNode : PlainNode → Node
  | .mk kind name attributes text children =>
      .mk kind name attributes (textContent (.mk kind name attributes text children))
        (toNodes children)

/-- Several plain nodes as rules see them. -/
def toNodes : List PlainNode → List Node
  | [] => []
  | node :: rest => toNode node :: toNodes rest

end

end PlainNode

end DepthRules
