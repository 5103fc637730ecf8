import DepthRules.Xml.View
import Mathlib.Data.List.Nodup

/-!
# Elements and what is around them

`Document.Path` is the way from an element up to the root of its document. The scope in which an
element is seen is made of the declarations on this way, the inner ones first (`scopeAt`). The nodes
on the way lie on a path of the tree that rules are run over (`Document.Path.nodesOn_path`), and
every path of elements in that tree is such a way (`exists_path_of_nodes`).
-/

namespace DepthRules

/-- The nodes from a node of a tree up to the root, each a child of the next. -/
inductive Node.Path (root : Node) : List Node → Prop
  | root : root.Path [root]
  | child {inner outer : Node} {above : List Node} (h : root.Path (outer :: above))
      (hmem : inner ∈ outer.children) : root.Path (inner :: outer :: above)

namespace Xml

/-! ## Scopes -/

namespace Scope

variable {outer scope : Scope} {declarations : List (Option String × String)}
  {pfx : Option String} {uri : String}

theorem mem_of_find? (h : scope.find? pfx = some uri) : (pfx, uri) ∈ scope := by
  rw [find?, Option.map_eq_some_iff] at h
  obtain ⟨b, hfind, rfl⟩ := h
  have hpfx : b.1 = pfx := by simpa using List.find?_some hfind
  rw [← hpfx]
  exact List.mem_of_find?_eq_some hfind

theorem find?_eq_none_iff : scope.find? pfx = none ↔ ∀ b ∈ scope, b.1 ≠ pfx := by
  rw [find?, Option.map_eq_none_iff, List.find?_eq_none]
  simp

/-- Where every prefix is bound once, each binding is found. -/
theorem find?_of_mem (hnodup : (scope.map Prod.fst).Nodup) (hmem : (pfx, uri) ∈ scope) :
    scope.find? pfx = some uri := by
  cases hfind : scope.find? pfx with
  | none => exact absurd rfl (find?_eq_none_iff.1 hfind _ hmem)
  | some found =>
      have hsame : (pfx, found) = (pfx, uri) :=
        List.inj_on_of_nodup_map hnodup (mem_of_find? hfind) hmem rfl
      rw [(Prod.mk.inj hsame).2]

/-- An inner declaration hides an outer one for the same prefix. -/
theorem find?_extend (outer : Scope) (declarations : List (Option String × String))
    (pfx : Option String) : (outer.extend declarations).find? pfx =
      (Scope.find? declarations pfx).or (outer.find? pfx) := by
  rw [find?, extend, List.find?_append, Option.map_or]
  cases hdeclared : Scope.find? declarations pfx with
  | some uri =>
      rw [find?] at hdeclared
      rw [hdeclared, Option.some_or, Option.some_or]
  | none =>
      have hother := find?_eq_none_iff.1 hdeclared
      rw [find?] at hdeclared
      rw [hdeclared, Option.none_or, Option.none_or, find?, List.find?_filter]
      congr 2
      funext b
      -- a binding of this prefix is not hidden
      by_cases hb : b.1 = pfx
      · have hvisible : ∀ d ∈ declarations, d.1 ≠ b.1 := fun d hd => hb ▸ hother d hd
        simpa [hb] using hvisible
      · simp [hb]

theorem nodup_extend (hdeclared : (declarations.map Prod.fst).Nodup)
    (houter : (outer.map Prod.fst).Nodup) : ((outer.extend declarations).map Prod.fst).Nodup := by
  rw [extend, List.map_append, List.nodup_append']
  refine ⟨hdeclared, houter.sublist (List.filter_sublist.map Prod.fst), ?_⟩
  rintro pfx hinner hfiltered
  obtain ⟨d, hd, rfl⟩ := List.mem_map.1 hinner
  obtain ⟨b, hb, hsame⟩ := List.mem_map.1 hfiltered
  have hvisible : ∀ d ∈ declarations, d.1 ≠ b.1 := by simpa using (List.mem_filter.1 hb).2
  exact hvisible d hd hsame.symm

end Scope

/-! ## The way from an element to the root -/

/-- An element: its tag and what is in it. -/
structure Element where
  tag : Tag
  content : List Item

/-- An element as a part of the content it is in. -/
def Element.item (e : Element) : Item := .element e.tag e.content

/-- The elements from an element of a document up to the root, each in the content of the next. -/
inductive Document.Path (d : Document) : List Element → Prop
  | root : d.Path [⟨d.tag, d.content⟩]
  | child {inner outer : Element} {above : List Element} (h : d.Path (outer :: above))
      (hmem : inner.item ∈ outer.content) : d.Path (inner :: outer :: above)

/-- The bindings in scope in an element, given with the elements around it. -/
def scopeAt : List Element → Scope
  | [] => []
  | e :: above => (scopeAt above).extend e.tag.declarations

/-- An element, given with the elements around it, as it appears to rules. -/
def nodesOn : List Element → List Node
  | [] => []
  | e :: above => e.item.toNode (scopeAt above) :: nodesOn above

theorem contentNodes_cons {item : Item} (h : ∀ run, item ≠ .text run) (scope : Scope)
    (pending : String) (rest : List Item) : contentNodes scope pending (item :: rest) =
      textNodes pending ++ item.toNode scope :: contentNodes scope "" rest := by
  rw [contentNodes]
  exact h

theorem Element.item_ne_text (e : Element) (run : String) : e.item ≠ .text run := by
  rintro ⟨⟩

/-- Every element of a content is one of its nodes. -/
theorem mem_contentNodes {scope : Scope} {e : Element} {items : List Item} (h : e.item ∈ items)
    (pending : String) : e.item.toNode scope ∈ contentNodes scope pending items := by
  induction items generalizing pending with
  | nil => simp at h
  | cons item rest ih =>
      rcases List.mem_cons.1 h with rfl | hrest
      · rw [contentNodes_cons e.item_ne_text]
        exact List.mem_append_right _ List.mem_cons_self
      · by_cases htext : ∃ run, item = .text run
        · obtain ⟨run, rfl⟩ := htext
          exact ih hrest (pending ++ run)
        · rw [contentNodes_cons fun run hrun => htext ⟨run, hrun⟩]
          exact List.mem_append_right _ (List.mem_cons_of_mem _ (ih hrest ""))

/-- Every node of a content that is an element is that of an element in it. -/
theorem exists_of_mem_contentNodes {scope : Scope} {n : Node} (hkind : n.kind = .element)
    {items : List Item} {pending : String} (h : n ∈ contentNodes scope pending items) :
    ∃ e : Element, e.item ∈ items ∧ e.item.toNode scope = n := by
  -- the text before an item is at most a node of another kind
  have htextNodes : ∀ run, n ∉ textNodes run := by
    intro run hmem
    rw [textNodes] at hmem
    split at hmem
    · simp at hmem
    · rw [List.mem_singleton.1 hmem] at hkind
      cases hkind
  induction items generalizing pending with
  | nil => exact absurd h (htextNodes pending)
  | cons item rest ih =>
      by_cases htext : ∃ run, item = .text run
      · obtain ⟨run, rfl⟩ := htext
        obtain ⟨e, he, hnode⟩ := ih h
        exact ⟨e, List.mem_cons_of_mem _ he, hnode⟩
      · rw [contentNodes_cons fun run hrun => htext ⟨run, hrun⟩] at h
        rcases List.mem_append.1 h with hpending | h
        · exact absurd hpending (htextNodes pending)
        · rcases List.mem_cons.1 h with rfl | hrest
          · cases item with
            | element tag content => exact ⟨⟨tag, content⟩, List.mem_cons_self, rfl⟩
            | text run => exact absurd ⟨run, rfl⟩ htext
            | comment | instruction | reference => cases hkind
          · obtain ⟨e, he, hnode⟩ := ih hrest
            exact ⟨e, List.mem_cons_of_mem _ he, hnode⟩

/-- The elements on the way to the root appear as nodes on a path to the root. -/
theorem Document.Path.nodesOn_path {d : Document} {elements : List Element} (h : d.Path elements) :
    d.toNode.Path (nodesOn elements) := by
  induction h with
  | root => exact .root
  | @child inner outer above h hmem ih => exact .child ih (mem_contentNodes hmem "")

/-- Every path of nodes that are elements comes from elements on the way to the root. -/
theorem exists_path_of_nodes {d : Document} {nodes : List Node} (h : d.toNode.Path nodes)
    (hkind : ∀ n ∈ nodes, n.kind = .element) :
    ∃ elements, d.Path elements ∧ nodesOn elements = nodes := by
  induction h with
  | root => exact ⟨_, .root, rfl⟩
  | @child inner outer above h hmem ih =>
      obtain ⟨hinner, houter⟩ := List.forall_mem_cons.1 hkind
      obtain ⟨elements, hpath, hnodes⟩ := ih houter
      cases elements with
      | nil => cases hnodes
      | cons e rest =>
          obtain ⟨hnode, hrest⟩ := List.cons.inj hnodes
          rw [← hnode] at hmem
          obtain ⟨e', he', hnode'⟩ := exists_of_mem_contentNodes hinner hmem
          refine ⟨e' :: e :: rest, .child hpath he', ?_⟩
          rw [nodesOn, hnodes]
          exact congrArg (· :: outer :: above) hnode'

end Xml

end DepthRules
