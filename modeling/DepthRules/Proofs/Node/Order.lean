import DepthRules.Proofs.Node.Texts
import Mathlib.Data.List.Lex
import Mathlib.Logic.Function.Iterate

/-!
# Texts in document order

The text content of an element is made of the texts of all nodes that are reached from it through
elements and texts. `PlainNode.inOrder` lists these nodes with their paths, by recursion over the
tree. A path is the list of positions that leads to a node from the top, so that the order of paths
as lists of numbers is the order of the document: a node comes before what is below it, and this
before the nodes to its right. The loop with a list of waiting nodes reads one of these nodes in
each turn, in that order, and ends when it has read all of them (`textContent_eq`).
-/

namespace DepthRules.PlainNode

/-- The path leads from a node to another one through elements and texts only. -/
inductive Collects : PlainNode → List Nat → PlainNode → Prop
  | here (node : PlainNode) : Collects node [] node
  | under {node child found : PlainNode} {position : Nat} {path : List Nat}
      (hchild : node.children[position]? = some child)
      (hkind : child.kind = .element ∨ child.kind = .text) (h : Collects child path found) :
      Collects node (position :: path) found

mutual

/-- A node and the nodes reached from it through elements and texts, with their paths. -/
def inOrder : PlainNode → List (List Nat × PlainNode)
  | .mk kind name attributes text children =>
      ([], .mk kind name attributes text children) :: inOrderFrom 0 children

/-- The nodes reached from several children of a node, the first of which has the given position. -/
def inOrderFrom (position : Nat) : List PlainNode → List (List Nat × PlainNode)
  | [] => []
  | child :: rest =>
      (if child.kind = .element ∨ child.kind = .text then
        child.inOrder.map fun f => (position :: f.1, f.2)
      else []) ++ inOrderFrom (position + 1) rest

end

/-- What the loop does with the nodes that wait and the texts that are done: it reads the next node
and puts those of its children in its place whose text belongs to it. -/
def turn (s : List PlainNode × List String) : List PlainNode × List String :=
  match s with
  | ([], done) => ([], done)
  | (node :: rest, done) => (node.children.filter isCollected ++ rest, node.text :: done)

theorem isCollected_iff (node : PlainNode) :
    node.isCollected = true ↔ node.kind = .element ∨ node.kind = .text := by
  rw [isCollected]
  cases node.kind <;> simp

/-! ## The nodes of the list -/

mutual

/-- Exactly the nodes that a path leads to are listed, with this path. -/
theorem mem_inOrder_iff {path : List Nat} {found : PlainNode} :
    ∀ node : PlainNode, (path, found) ∈ node.inOrder ↔ node.Collects path found
  | .mk kind name attributes text children => by
      rw [inOrder, List.mem_cons, mem_inOrderFrom_iff children 0]
      constructor
      · rintro (heq | ⟨position, child, below, hchild, hkind, rfl, h⟩)
        · cases heq
          exact .here _
        · rw [Nat.zero_add]
          exact .under hchild hkind h
      · intro h
        cases h with
        | here => exact .inl rfl
        | under hchild hkind h =>
            exact .inr ⟨_, _, _, hchild, hkind, by rw [Nat.zero_add], h⟩

theorem mem_inOrderFrom_iff {path : List Nat} {found : PlainNode} :
    ∀ (children : List PlainNode) (position : Nat),
      (path, found) ∈ inOrderFrom position children ↔
        ∃ i child below, children[i]? = some child ∧
          (child.kind = .element ∨ child.kind = .text) ∧ path = (position + i) :: below ∧
          child.Collects below found
  | [], position => by simp [inOrderFrom]
  | child :: rest, position => by
      rw [inOrderFrom, List.mem_append, mem_inOrderFrom_iff rest (position + 1)]
      constructor
      · rintro (h | ⟨i, other, below, hother, hkind, rfl, h⟩)
        · split at h
          · rename_i hkind
            obtain ⟨⟨below, node⟩, hmem, heq⟩ := List.mem_map.1 h
            cases heq
            exact ⟨0, child, below, rfl, hkind, rfl, (mem_inOrder_iff child).1 hmem⟩
          · cases h
        · exact ⟨i + 1, other, below, hother, hkind, by rw [Nat.add_right_comm, Nat.add_assoc], h⟩
      · rintro ⟨i, other, below, hother, hkind, rfl, h⟩
        cases i with
        | zero =>
            rw [List.getElem?_cons_zero, Option.some.injEq] at hother
            subst hother
            rw [if_pos hkind]
            exact .inl (List.mem_map.2 ⟨(below, found), (mem_inOrder_iff child).2 h, rfl⟩)
        | succ i =>
            exact .inr
              ⟨i, other, below, hother, hkind, by rw [Nat.add_right_comm, Nat.add_assoc], h⟩

end

/-- Every path below the children of a node starts with the position of one of them. -/
theorem exists_of_mem_inOrderFrom {children : List PlainNode} {position : Nat} {path : List Nat}
    (h : path ∈ (inOrderFrom position children).map Prod.fst) :
    ∃ i below, path = (position + i) :: below := by
  obtain ⟨⟨path, found⟩, hmem, rfl⟩ := List.mem_map.1 h
  obtain ⟨i, child, below, -, -, hpath, -⟩ := (mem_inOrderFrom_iff children position).1 hmem
  exact ⟨i, below, hpath⟩

mutual

/-- The nodes are listed in document order, each only once. -/
theorem pairwise_inOrder : ∀ node : PlainNode, (node.inOrder.map Prod.fst).Pairwise (· < ·)
  | .mk kind name attributes text children => by
      rw [inOrder, List.map_cons, List.pairwise_cons]
      refine ⟨fun path hpath => ?_, pairwise_inOrderFrom children 0⟩
      obtain ⟨i, below, rfl⟩ := exists_of_mem_inOrderFrom hpath
      exact List.nil_lt_cons _ _

theorem pairwise_inOrderFrom : ∀ (children : List PlainNode) (position : Nat),
    ((inOrderFrom position children).map Prod.fst).Pairwise (· < ·)
  | [], position => List.Pairwise.nil
  | child :: rest, position => by
      have hrest := pairwise_inOrderFrom rest (position + 1)
      rw [inOrderFrom, List.map_append, List.pairwise_append]
      split
      · rw [List.map_map]
        refine ⟨?_, hrest, ?_⟩
        · -- below one child the positions after the first decide
          have hchild := pairwise_inOrder child
          rw [List.pairwise_map] at hchild ⊢
          exact hchild.imp fun h => List.cons_lt_cons_self.2 h
        · intro path hpath other hother
          obtain ⟨f, -, rfl⟩ := List.mem_map.1 hpath
          obtain ⟨i, below, rfl⟩ := exists_of_mem_inOrderFrom hother
          exact List.Lex.rel (by omega)
      · exact ⟨List.Pairwise.nil, hrest, fun path hpath => absurd hpath List.not_mem_nil⟩

end

mutual

/-- The texts of the nodes listed are those collected by recursion over the tree. -/
theorem map_text_inOrder : ∀ node : PlainNode, (node.inOrder.map fun f => f.2.text) = node.texts
  | .mk kind name attributes text children => by
      rw [inOrder, List.map_cons, map_text_inOrderFrom children 0, texts]
      rfl

theorem map_text_inOrderFrom : ∀ (children : List PlainNode) (position : Nat),
    ((inOrderFrom position children).map fun f => f.2.text) = textsBelow children
  | [], position => rfl
  | child :: rest, position => by
      rw [inOrderFrom, List.map_append, map_text_inOrderFrom rest, textsBelow]
      simp only [← isCollected_iff]
      split
      · rw [List.map_map, ← map_text_inOrder child]
        rfl
      · rfl

end

/-! ## The turns of the loop -/

/-- A turn reads the first of the texts that are still to be done. -/
theorem flatMap_texts_turn (s : List PlainNode × List String) (h : s.1 ≠ []) :
    ∃ text, s.1.flatMap texts = text :: (turn s).1.flatMap texts ∧ (turn s).2 = text :: s.2 := by
  obtain ⟨waiting, done⟩ := s
  cases waiting with
  | nil => exact absurd rfl h
  | cons node rest =>
      refine ⟨node.text, ?_, rfl⟩
      rw [turn, List.flatMap_cons, texts_eq node, List.flatMap_append]
      rfl

/-- The loop has ended exactly if no text is still to be done. -/
theorem flatMap_texts_eq_nil_iff (waiting : List PlainNode) :
    waiting.flatMap texts = [] ↔ waiting = [] := by
  cases waiting with
  | nil => exact iff_of_true rfl rfl
  | cons node rest => simp [texts_eq node]

/-- After some turns so many texts are done, the last one first, and the others are still to be
done. -/
theorem turns_eq (s : List PlainNode × List String) (turns : Nat) :
    (turn^[turns] s).1.flatMap texts = (s.1.flatMap texts).drop turns ∧
      (turn^[turns] s).2 = ((s.1.flatMap texts).take turns).reverse ++ s.2 := by
  induction turns generalizing s with
  | zero => simp
  | succ turns ih =>
      rw [Function.iterate_succ_apply]
      obtain ⟨hwaiting, hdone⟩ := ih (turn s)
      by_cases h : s.1 = []
      · -- the loop has ended, so that a turn changes nothing
        obtain ⟨waiting, done⟩ := s
        subst h
        simpa [turn] using ih ([], done)
      · obtain ⟨text, htexts, htext⟩ := flatMap_texts_turn s h
        rw [hwaiting, hdone, htexts, htext]
        simp

/-! ## The text content -/

/-- The text content of an element is the texts of all nodes reached from it through elements and
texts, each once and in document order; that of any other node is its own text. The loop that
collects them reads one of these nodes in each turn, and has no more to read just when all of them
are read. -/
theorem textContent_eq (node : PlainNode) :
    node.textContent =
      (if node.kind = .element then String.join (node.inOrder.map fun f => f.2.text)
        else node.text) ∧
    (∀ path found, (path, found) ∈ node.inOrder ↔ node.Collects path found) ∧
    (node.inOrder.map Prod.fst).Pairwise (· < ·) ∧
    (∀ turns, (turn^[turns] ([node], [])).1 = [] ↔ node.inOrder.length ≤ turns) ∧
    collect [node] [] = (turn^[node.inOrder.length] ([node], [])).2.reverse := by
  have htexts := map_text_inOrder node
  have hlength : node.inOrder.length = node.texts.length := by rw [← htexts, List.length_map]
  have hstart : ([node] : List PlainNode).flatMap texts = node.texts := List.flatMap_singleton ..
  refine ⟨?_, fun path found => mem_inOrder_iff node, pairwise_inOrder node, fun turns => ?_, ?_⟩
  · rw [htexts]
    split
    · exact textContent_of_element ‹_›
    · rw [textContent, if_neg ‹_›]
  · rw [← flatMap_texts_eq_nil_iff, (turns_eq _ turns).1, hstart, List.drop_eq_nil_iff, hlength]
  · rw [(turns_eq _ _).2, hstart, hlength, List.take_length, List.append_nil, List.reverse_reverse,
      collect_eq, hstart]
    rfl

end DepthRules.PlainNode
