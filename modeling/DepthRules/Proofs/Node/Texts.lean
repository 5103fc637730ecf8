import DepthRules.Node.Plain

/-!
# The texts of a plain node

`PlainNode.texts` collects the own texts of a node and of everything whose text belongs to it by
recursion over the tree. The loop that reads nodes from a waiting list collects the same texts in
the same order (`collect_eq`): at every step the texts that are done, and after them those of the
nodes that wait, are the texts of the whole.
-/

namespace DepthRules.PlainNode

mutual

/-- The own text of a node and the texts of the elements and texts below it, in document order. -/
def texts : PlainNode → List String
  | .mk _ _ _ text children => text :: textsBelow children

/-- The texts of those nodes of a list that are elements or texts. -/
def textsBelow : List PlainNode → List String
  | [] => []
  | node :: rest => (if node.isCollected then node.texts else []) ++ textsBelow rest

end

theorem textsBelow_eq_flatMap (nodes : List PlainNode) :
    textsBelow nodes = (nodes.filter isCollected).flatMap texts := by
  induction nodes with
  | nil => rfl
  | cons node rest ih =>
      rw [textsBelow, ih]
      by_cases hnode : node.isCollected = true
      · rw [if_pos hnode, List.filter_cons_of_pos hnode, List.flatMap_cons]
      · rw [if_neg hnode, List.filter_cons_of_neg hnode, List.nil_append]

theorem texts_eq (node : PlainNode) :
    node.texts = node.text :: (node.children.filter isCollected).flatMap texts := by
  obtain ⟨kind, name, attributes, text, children⟩ := node
  rw [texts, textsBelow_eq_flatMap]
  rfl

/-- Reading nodes from a waiting list adds the texts of the nodes on it to those that are done. -/
theorem collect_eq (waiting : List PlainNode) (done : List String) :
    collect waiting done = done.reverse ++ waiting.flatMap texts := by
  induction waiting, done using collect.induct with
  | case1 done => rw [collect, List.flatMap_nil, List.append_nil]
  | case2 done node rest ih =>
      -- the own text of the node is done now, and its children wait in its place
      rw [collect, ih, List.flatMap_append, List.flatMap_cons, texts_eq node, List.reverse_cons]
      simp

theorem intercalate_empty (parts : List String) : "".intercalate parts = String.join parts := by
  induction parts with
  | nil => rfl
  | cons part rest ih =>
      cases rest with
      | nil => rw [String.intercalate_singleton, String.join_cons, String.join_nil,
          String.append_empty]
      | cons next rest =>
          rw [String.intercalate_cons_cons, String.append_empty, ih, ← String.join_cons]

/-- The text content of an element is all its texts, one after the other. -/
theorem textContent_of_element {node : PlainNode} (h : node.kind = .element) :
    node.textContent = String.join node.texts := by
  rw [textContent, if_pos h, collect_eq, intercalate_empty]
  simp

end DepthRules.PlainNode
