import DepthRules.Proofs.Engine.Failure
import DepthRules.Proofs.Node.Texts
import DepthRules.Proofs.Xml.Text

/-!
# Documents copied node by node

The tree of a parsed document can be copied into plain nodes: an element keeps its name and its
attributes and has no text of its own, and every other node keeps its text (`Node.copy`). The two
trees put their text contents together in different ways. They agree on trees in which the text
content of every element is that of the elements and texts among its children (`Node.Joined`), and
there rules see no difference between the copy and what was copied (`toNode_copy`). Documents are
such trees, unless a reference is left in them (`parse_copy`).
-/

namespace DepthRules

/-! ## Copies -/

namespace Node

mutual

/-- The copy of a node. Its own text is the text content, but an element has none: its text is in
its children. -/
def copy : Node → PlainNode
  | .mk kind name attributes textContent children =>
      .mk kind name attributes (if kind = .element then "" else textContent) (copyAll children)

/-- The copies of several nodes. -/
def copyAll : List Node → List PlainNode
  | [] => []
  | node :: rest => copy node :: copyAll rest

end

/-- What a node adds to the text content of the element it is in, if it stands as a text or an
element there. -/
def addedText (node : Node) : String :=
  match node.kind with
  | .element => node.textContent
  | .text => node.textContent
  | _ => ""

/-- The text content of every element is what its children add, and only elements have children. -/
inductive Joined : Node → Prop
  | element (name : String) (attributes : Entries String String) {children : List Node}
      (h : ∀ child ∈ children, child.Joined) :
      Joined (.mk .element name attributes (String.join (children.map addedText)) children)
  | leaf {kind : Kind} (hkind : kind ≠ .element) (name : String)
      (attributes : Entries String String) (text : String) :
      Joined (.mk kind name attributes text [])

theorem addedText_of_collected {node : Node} (h : node.copy.isCollected = true) :
    node.addedText = node.textContent := by
  obtain ⟨kind, name, attributes, textContent, children⟩ := node
  cases kind with
  | element | text => rfl
  | comment | other => cases h

theorem addedText_of_not_collected {node : Node} (h : ¬ node.copy.isCollected = true) :
    node.addedText = "" := by
  obtain ⟨kind, name, attributes, textContent, children⟩ := node
  cases kind with
  | element | text => exact absurd rfl h
  | comment | other => rfl

theorem kind_copy (node : Node) : node.copy.kind = node.kind := by
  cases node
  rfl

/-- Children whose texts come to their text contents come to what they add together. -/
theorem join_textsBelow_copyAll {children : List Node}
    (h : ∀ child ∈ children, String.join child.copy.texts = child.textContent) :
    String.join (PlainNode.textsBelow (copyAll children)) =
      String.join (children.map addedText) := by
  induction children with
  | nil => rfl
  | cons child rest ih =>
      obtain ⟨hchild, hrest⟩ := List.forall_mem_cons.1 h
      have hadded : String.join (if child.copy.isCollected then child.copy.texts else []) =
          child.addedText := by
        by_cases hcollected : child.copy.isCollected = true
        · rw [if_pos hcollected, addedText_of_collected hcollected]
          exact hchild
        · rw [if_neg hcollected, addedText_of_not_collected hcollected]
          rfl
      rw [copyAll, PlainNode.textsBelow, String.join_append, ih hrest, hadded, List.map_cons,
        String.join_cons]

/-- The texts of a copy come to the text content of what was copied. -/
theorem join_texts_copy {node : Node} (h : node.Joined) :
    String.join node.copy.texts = node.textContent := by
  induction h with
  | element name attributes h ih =>
      -- an element has no text of its own, so all texts are those of its children
      rw [copy, if_pos rfl, PlainNode.texts, String.join_cons, String.empty_append,
        join_textsBelow_copyAll ih]
      rfl
  | leaf hkind name attributes text =>
      rw [copy, if_neg hkind, copyAll, PlainNode.texts, PlainNode.textsBelow, String.join_cons,
        String.join_nil, String.append_empty]
      rfl

theorem textContent_copy {node : Node} (h : node.Joined) :
    node.copy.textContent = node.textContent := by
  by_cases hkind : node.kind = .element
  · rw [PlainNode.textContent_of_element ((kind_copy node).trans hkind), join_texts_copy h]
  · rw [PlainNode.textContent, kind_copy, if_neg hkind]
    obtain ⟨kind, name, attributes, text, children⟩ := node
    exact if_neg hkind

theorem toNodes_copyAll {children : List Node} (h : ∀ child ∈ children, child.copy.toNode = child) :
    PlainNode.toNodes (copyAll children) = children := by
  induction children with
  | nil => rfl
  | cons child rest ih =>
      obtain ⟨hchild, hrest⟩ := List.forall_mem_cons.1 h
      rw [copyAll, PlainNode.toNodes, hchild, ih hrest]

/-- Rules see in a copy what they see in the tree that was copied. -/
theorem toNode_copy {node : Node} (h : node.Joined) : node.copy.toNode = node := by
  have htext := textContent_copy h
  induction h with
  | element name attributes h ih =>
      have hchildren := toNodes_copyAll fun child hchild =>
        ih child hchild (textContent_copy (h child hchild))
      rw [copy] at htext ⊢
      rw [PlainNode.toNode, htext, hchildren]
      rfl
  | leaf hkind name attributes text =>
      rw [copy] at htext ⊢
      rw [PlainNode.toNode, htext]
      rfl

/-! ## Places -/

/-- The node at a place of a tree. -/
def at? (root : Node) : Place → Option Node
  | [] => some root
  | position :: place => (root.at? place).bind fun node => node.children[position]?

theorem joined_of_at? {root node : Node} (hroot : root.Joined) {place : Place}
    (h : root.at? place = some node) : node.Joined := by
  induction place generalizing node with
  | nil =>
      rw [at?, Option.some_inj] at h
      exact h ▸ hroot
  | cons position place ih =>
      rw [at?, Option.bind_eq_some_iff] at h
      obtain ⟨outer, houter, hget⟩ := h
      have hmem : node ∈ outer.children := List.mem_of_getElem? hget
      -- the node around it has a child, so it is an element, and all its children are joined
      cases ih houter with
      | element name attributes hchildren => exact hchildren node hmem
      | leaf => exact absurd hmem List.not_mem_nil

end Node

/-- The plain node at a place of a tree. -/
def PlainNode.at? (root : PlainNode) : Place → Option PlainNode
  | [] => some root
  | position :: place => (root.at? place).bind fun node => node.children[position]?

namespace Node

theorem copyAll_eq_map (nodes : List Node) : copyAll nodes = nodes.map copy := by
  induction nodes with
  | nil => rfl
  | cons node rest ih => rw [copyAll, ih, List.map_cons]

theorem children_copy (node : Node) : node.copy.children = node.children.map copy := by
  obtain ⟨kind, name, attributes, textContent, children⟩ := node
  exact copyAll_eq_map children

/-- The copy has the copies of all nodes at their places, and no other nodes. -/
theorem at?_copy (root : Node) (place : Place) :
    root.copy.at? place = (root.at? place).map copy := by
  induction place with
  | nil => rfl
  | cons position place ih =>
      rw [PlainNode.at?, ih, at?]
      cases root.at? place with
      | none => rfl
      | some outer =>
          rw [Option.map_some, Option.bind_some, Option.bind_some, children_copy,
            List.getElem?_map]

end Node

namespace Xml

/-! ## Documents without references -/

/-- No reference is left in an item. -/
inductive Item.Resolved : Item → Prop
  | element (tag : Tag) {content : List Item} (h : ∀ item ∈ content, item.Resolved) :
      Resolved (.element tag content)
  | text (run : String) : Resolved (.text run)
  | comment (body : String) : Resolved (.comment body)
  | instruction (target body : String) : Resolved (.instruction target body)

/-- An item that is no reference adds as a node the text it has. -/
theorem addedText_toNode {item : Item} (h : item.Resolved) (scope : Scope) :
    (item.toNode scope).addedText = item.innerText := by
  cases h with
  | element | text | comment | instruction =>
      rw [Item.toNode, Item.innerText]
      rfl

theorem addedText_part {pending : String} {items : List Item} (h : ∀ item ∈ items, item.Resolved)
    (scope : Scope) {part : Item} (hpart : part ∈ joined pending items) :
    (part.toNode scope).addedText = part.innerText := by
  rcases mem_joined_cases hpart with ⟨hitem, -⟩ | ⟨run, -, rfl⟩
  · exact addedText_toNode (h part hitem) scope
  · exact addedText_toNode (.text run) scope

/-- Where no reference is left, the text content of every element is what its children add. -/
theorem joined_toNode {item : Item} (h : item.Resolved) (scope : Scope) :
    (item.toNode scope).Joined := by
  induction h generalizing scope with
  | @element tag content hcontent ih =>
      have htext : allInnerText content =
          String.join ((contentNodes (scope.extend tag.declarations) "" content).map
            Node.addedText) := by
        have hparts := join_innerText_joined "" content
        rw [String.empty_append] at hparts
        rw [contentNodes_eq_map, List.map_map, ← hparts]
        refine congrArg String.join (List.map_congr_left fun part hpart => ?_)
        exact (addedText_part hcontent _ hpart).symm
      rw [Item.toNode, htext]
      refine .element _ _ ?_
      intro child hchild
      rw [contentNodes_eq_map] at hchild
      obtain ⟨part, hpart, rfl⟩ := List.mem_map.1 hchild
      rcases mem_joined_cases hpart with ⟨hitem, -⟩ | ⟨run, -, rfl⟩
      · exact ih part hitem _
      · exact .leaf Node.Kind.noConfusion _ _ _
  | text | comment | instruction => exact .leaf Node.Kind.noConfusion _ _ _

end Xml

namespace Document

open Xml

/-- A parsed document in which no reference is left is the same to rules as its copy into plain
nodes. With any handlers, a run over the copy makes the calls of the run over the document, with the
same rules, nodes and values in the same order, and ends as that does. Every element of the document
has its copy at its place, with the same text content and the same values of attributes. -/
theorem parse_copy {settings : ParseSettings} {origin : String} {bytes : List UInt8} {root : Node}
    {d : Xml.Document} (hparse : parse settings origin bytes = .ok root)
    (hread : Xml.Document.read settings.options bytes = .ok d) (hresolved : d.root.Resolved) :
    (∀ (rules : List Rule) (ε : Type) (fails : Failing ε) (past : List Call),
      (Engine.ofRules rules).outcome fails past root.copy.toNode =
        (Engine.ofRules rules).outcome fails past root) ∧
    ∀ (place : Place) (node : Node), root.at? place = some node → node.kind = .element →
      ∃ twin, root.copy.at? place = some twin ∧ twin.kind = .element ∧
        twin.textContent = node.textContent ∧
        ∀ name, twin.toNode.attributeValue? name = node.attributeValue? name := by
  have hroot : root.Joined := by
    rw [parse, hread] at hparse
    cases hparse
    exact joined_toNode hresolved []
  constructor
  · intro rules ε fails past
    rw [Node.toNode_copy hroot]
  · intro place node hplace hkind
    have hnode := Node.joined_of_at? hroot hplace
    have htwin : root.copy.at? place = some node.copy := by
      rw [Node.at?_copy, hplace, Option.map_some]
    refine ⟨node.copy, htwin, (Node.kind_copy node).trans hkind, Node.textContent_copy hnode, ?_⟩
    intro name
    rw [Node.toNode_copy hnode]

/-- The bytes of a document with an attribute, and with text around items of every kind but
references. -/
def resolvedBytes : List UInt8 :=
  "<a x='1'>t<!--c--><?p q?>u<b y=''>v<![CDATA[w]]></b>z</a>".toUTF8.data.toList

/-- That document. -/
def resolved : Xml.Document :=
  ⟨⟨⟨none, "a", none⟩, [], [⟨⟨none, "x", none⟩, "1"⟩]⟩,
    [.text "t", .comment "c", .instruction "p" "q", .text "u",
      .element ⟨⟨none, "b", none⟩, [], [⟨⟨none, "y", none⟩, ""⟩]⟩ [.text "v", .text "w"],
      .text "z"]⟩

theorem read_resolved :
    Xml.Document.read ParseSettings.standard.options resolvedBytes = .ok resolved := by
  decide +kernel

/-- That document is the same to rules as its copy, and its inner element has its copy at its place.
-/
theorem parse_copy_resolved :
    parse .standard bytesOrigin resolvedBytes = .ok resolved.toNode ∧ resolved.root.Resolved ∧
    (∀ (rules : List Rule) (ε : Type) (fails : Failing ε) (past : List Call),
      (Engine.ofRules rules).outcome fails past resolved.toNode.copy.toNode =
        (Engine.ofRules rules).outcome fails past resolved.toNode) ∧
    ∃ twin, resolved.toNode.copy.at? [4] = some twin ∧ twin.kind = .element ∧
      twin.textContent = "vw" ∧ twin.toNode.attributeValue? "y" = none := by
  have hparse : parse .standard bytesOrigin resolvedBytes = .ok resolved.toNode := by
    rw [parse, read_resolved]
  have hinner : ∀ item ∈ [Item.text "v", Item.text "w"], item.Resolved :=
    List.forall_mem_cons.2 ⟨.text "v", List.forall_mem_singleton.2 (.text "w")⟩
  have hresolved : resolved.root.Resolved := by
    refine .element _ ?_
    simp only [resolved, List.forall_mem_cons]
    exact ⟨.text _, .comment _, .instruction _ _, .text _, .element _ hinner, .text _,
      List.forall_mem_nil _⟩
  obtain ⟨hruns, htwins⟩ := parse_copy hparse read_resolved hresolved
  obtain ⟨twin, htwin, hkind, htext, hvalue⟩ := htwins [4] _ rfl rfl
  exact ⟨hparse, hresolved, hruns, twin, htwin, hkind, htext, hvalue "y"⟩

end Document

end DepthRules
