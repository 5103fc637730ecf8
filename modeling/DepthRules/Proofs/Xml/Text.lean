import DepthRules.Proofs.Document
import DepthRules.Proofs.Xml.Path
import Mathlib

/-!
# The text of an element and its children

The text content of an element is collected over everything in it, while its children are put
together from the runs of text, the elements and the other items that stand in it side by side. Both
tell of the same text (`parse_children_text`): the children are the items of the content with text
that stands together made into one part (`joined`), so that no part is empty text and no two parts
of text stand side by side; they spell the content character by character and item by item; and what
they add, one after the other, is the text content.
-/

namespace DepthRules.Xml

/-! ## Parts of a content -/

/-- Text as a part of a content, if there is any. -/
def textParts (text : String) : List Item := if text.isEmpty then [] else [.text text]

/-- The parts of a content that become children, after text that is in no part yet. Text that stands
together is one part. -/
def joined (pending : String) : List Item → List Item
  | [] => textParts pending
  | .text run :: rest => joined (pending ++ run) rest
  | item :: rest => textParts pending ++ item :: joined "" rest

/-- What an item consists of where text is looked at character by character. -/
def Item.spelling : Item → List (Char ⊕ Item)
  | .text run => run.toList.map .inl
  | item => [.inr item]

/-- What an item adds to the text of the element it is in, where `child` is the item as a node. Text
and elements add their text content, and a reference is written out; comments and instructions add
nothing. -/
def Item.added (child : Node) : Item → String
  | .element _ _ => child.textContent
  | .text _ => child.textContent
  | .reference entity => "&" ++ entity ++ ";"
  | .comment _ => ""
  | .instruction _ _ => ""

theorem joined_cons {item : Item} (h : ∀ run, item ≠ .text run) (pending : String)
    (rest : List Item) :
    joined pending (item :: rest) = textParts pending ++ item :: joined "" rest := by
  rw [joined]
  exact h

/-! ## Parts as children -/

theorem textNodes_eq_map (scope : Scope) (text : String) :
    textNodes text = (textParts text).map (Item.toNode scope) := by
  rw [textNodes, textParts]
  split
  · rfl
  · rw [List.map_singleton, Item.toNode]

/-- The children are the parts of the content. -/
theorem contentNodes_eq_map (scope : Scope) (pending : String) (items : List Item) :
    contentNodes scope pending items = (joined pending items).map (Item.toNode scope) := by
  induction pending, items using joined.induct with
  | case1 pending =>
      rw [contentNodes, joined]
      exact textNodes_eq_map scope pending
  | case2 pending run rest ih =>
      rw [contentNodes, joined]
      exact ih
  | case3 pending item rest hitem ih =>
      rw [contentNodes_cons hitem, joined_cons hitem, List.map_append, List.map_cons, ih,
        textNodes_eq_map scope]

theorem spelling_of_ne_text {item : Item} (h : ∀ run, item ≠ .text run) :
    item.spelling = [.inr item] := by
  rw [Item.spelling]
  exact h

theorem flatMap_spelling_textParts (text : String) :
    (textParts text).flatMap Item.spelling = text.toList.map .inl := by
  rw [textParts]
  split
  · rename_i hempty
    rw [String.isEmpty_iff.1 hempty]
    rfl
  · rw [List.flatMap_singleton, Item.spelling]

/-- The parts spell the text before the content and the content itself: nothing is lost, put in
twice, or moved. -/
theorem flatMap_spelling_joined (pending : String) (items : List Item) :
    (joined pending items).flatMap Item.spelling =
      pending.toList.map .inl ++ items.flatMap Item.spelling := by
  induction pending, items using joined.induct with
  | case1 pending => rw [joined, flatMap_spelling_textParts, List.flatMap_nil, List.append_nil]
  | case2 pending run rest ih =>
      rw [joined, ih, List.flatMap_cons, Item.spelling, String.toList_append, List.map_append,
        List.append_assoc]
  | case3 pending item rest hitem ih =>
      rw [joined_cons hitem, List.flatMap_append, List.flatMap_cons, List.flatMap_cons, ih,
        flatMap_spelling_textParts, spelling_of_ne_text hitem]
      rfl

/-! ## The text of parts -/

theorem added_toNode (scope : Scope) (item : Item) :
    item.added (item.toNode scope) = item.innerText := by
  cases item with
  | element tag content => rw [Item.added, Item.toNode, Item.innerText]; rfl
  | text run => rw [Item.added, Item.toNode, Item.innerText]; rfl
  | comment body => rw [Item.added, Item.innerText]
  | instruction target body => rw [Item.added, Item.innerText]
  | reference entity => rw [Item.added, Item.innerText]

theorem join_innerText_textParts (text : String) :
    String.join ((textParts text).map Item.innerText) = text := by
  rw [textParts]
  split
  · rename_i hempty
    exact (String.isEmpty_iff.1 hempty).symm
  · rw [List.map_singleton, Item.innerText, String.join_cons, String.join_nil, String.append_empty]

/-- The texts of the parts, one after the other, are the text of the content. -/
theorem join_innerText_joined (pending : String) (items : List Item) :
    String.join ((joined pending items).map Item.innerText) = pending ++ allInnerText items := by
  induction pending, items using joined.induct with
  | case1 pending => rw [joined, join_innerText_textParts, allInnerText, String.append_empty]
  | case2 pending run rest ih =>
      rw [joined, ih, allInnerText, Item.innerText, String.append_assoc]
  | case3 pending item rest hitem ih =>
      rw [joined_cons hitem, List.map_append, String.join_append, List.map_cons, String.join_cons,
        ih, join_innerText_textParts, allInnerText, String.empty_append]

/-! ## No empty text, no text beside text -/

/-- Text that is not empty, or any other item. -/
def Item.IsFilled (item : Item) : Prop := item ≠ .text ""

/-- Two items that may stand side by side in the parts of a content: not both of them are text. -/
def Item.MayMeet (item next : Item) : Prop := ¬ (item.isText ∧ next.isText)

theorem eq_text_of_mem_textParts {text : String} {part : Item} (h : part ∈ textParts text) :
    ∃ run, run ≠ "" ∧ part = .text run := by
  rw [textParts] at h
  split at h
  · exact absurd h List.not_mem_nil
  · rename_i hempty
    exact ⟨text, fun heq => hempty (String.isEmpty_iff.2 heq), List.mem_singleton.1 h⟩

/-- A part is an item of the content that is no text, or it is text, and then not empty. -/
theorem mem_joined_cases {pending : String} {items : List Item} {part : Item}
    (h : part ∈ joined pending items) :
    (part ∈ items ∧ ∀ run, part ≠ .text run) ∨ ∃ run, run ≠ "" ∧ part = .text run := by
  induction pending, items using joined.induct with
  | case1 pending => exact .inr (eq_text_of_mem_textParts h)
  | case2 pending run rest ih =>
      exact (ih h).imp_left fun hitem => ⟨List.mem_cons_of_mem _ hitem.1, hitem.2⟩
  | case3 pending item rest hitem ih =>
      rw [joined_cons hitem] at h
      rcases List.mem_append.1 h with hpending | h
      · exact .inr (eq_text_of_mem_textParts hpending)
      · rcases List.mem_cons.1 h with rfl | hrest
        · exact .inl ⟨List.mem_cons_self, hitem⟩
        · exact (ih hrest).imp_left fun hitem => ⟨List.mem_cons_of_mem _ hitem.1, hitem.2⟩

theorem isFilled_of_mem_joined {pending : String} {items : List Item} {part : Item}
    (h : part ∈ joined pending items) : part.IsFilled := by
  rcases mem_joined_cases h with ⟨-, hitem⟩ | ⟨run, hrun, rfl⟩
  · exact hitem ""
  · exact fun heq => hrun (Item.text.inj heq)

theorem isText_of_ne_text {item : Item} (h : ∀ run, item ≠ .text run) : ¬ item.isText := by
  cases item with
  | text run => exact absurd rfl (h run)
  | element | comment | instruction | reference => exact Bool.false_ne_true

theorem isChain_textParts (text : String) : (textParts text).IsChain Item.MayMeet := by
  rw [textParts]
  split
  · exact .nil
  · exact .singleton _

/-- No two parts of text stand side by side. -/
theorem isChain_joined (pending : String) (items : List Item) :
    (joined pending items).IsChain Item.MayMeet := by
  induction pending, items using joined.induct with
  | case1 pending => exact isChain_textParts pending
  | case2 pending run rest ih => exact ih
  | case3 pending item rest hitem ih =>
      -- the item parts the text before it from what comes after
      have hparts : ∀ other, item.MayMeet other ∧ other.MayMeet item := fun other =>
        ⟨fun h => isText_of_ne_text hitem h.1, fun h => isText_of_ne_text hitem h.2⟩
      rw [joined_cons hitem]
      refine List.isChain_append.2 ⟨isChain_textParts pending, ?_, ?_⟩
      · exact List.isChain_cons.2 ⟨fun next _ => (hparts next).1, ih⟩
      · rintro last - next hnext
        rw [List.head?_cons, Option.mem_some_iff] at hnext
        rw [← hnext]
        exact (hparts last).2

/-! ## The nodes of a document -/

theorem kind_toNode_eq_text_iff (scope : Scope) (item : Item) :
    (item.toNode scope).kind = .text ↔ item.isText := by
  cases item with
  | text run => exact iff_of_true rfl rfl
  | element | comment | instruction | reference =>
      exact iff_of_false (fun h => nomatch h) Bool.false_ne_true

/-- Every node of a document is an item as it appears in some scope. -/
theorem exists_item_of_mem_path {d : Document} {nodes : List Node} (h : d.toNode.Path nodes) :
    ∀ n ∈ nodes, ∃ scope item, n = Item.toNode scope item := by
  induction h with
  | root =>
      intro n hn
      exact ⟨[], d.root, List.mem_singleton.1 hn⟩
  | @child inner outer above h hmem ih =>
      intro n hn
      rcases List.mem_cons.1 hn with rfl | hn
      · obtain ⟨scope, item, rfl⟩ := ih outer List.mem_cons_self
        cases item with
        | element tag content =>
            rw [Item.toNode, Node.children, contentNodes_eq_map] at hmem
            obtain ⟨part, -, rfl⟩ := List.mem_map.1 hmem
            exact ⟨_, part, rfl⟩
        | text | comment | instruction | reference => exact absurd hmem List.not_mem_nil
      · exact ih n hn

/-- Around a node there are only elements. -/
theorem kind_of_mem_above {d : Document} {node : Node} {above : List Node}
    (h : d.toNode.Path (node :: above)) : ∀ n ∈ above, n.kind = .element := by
  generalize hnodes : node :: above = nodes at h
  induction h generalizing node above with
  | root =>
      rw [(List.cons.inj hnodes).2]
      exact fun n hn => absurd hn List.not_mem_nil
  | @child inner outer rest h hmem ih =>
      rw [(List.cons.inj hnodes).2]
      intro n hn
      rcases List.mem_cons.1 hn with rfl | hn
      · obtain ⟨scope, item, rfl⟩ := exists_item_of_mem_path h n List.mem_cons_self
        cases item with
        | element tag content => rfl
        | text | comment | instruction | reference => exact absurd hmem List.not_mem_nil
      · exact ih rfl n hn

/-- An element among the nodes of a document comes from an element of the document. -/
theorem exists_path_of_element {d : Document} {node : Node} {above : List Node}
    (h : d.toNode.Path (node :: above)) (hkind : node.kind = .element) :
    ∃ e outer, d.Path (e :: outer) ∧ node = e.item.toNode (scopeAt outer) := by
  obtain ⟨elements, hpath, hnodes⟩ := exists_path_of_nodes h
    (List.forall_mem_cons.2 ⟨hkind, kind_of_mem_above h⟩)
  cases elements with
  | nil => cases hnodes
  | cons e outer => exact ⟨e, outer, hpath, (List.cons.inj hnodes).1.symm⟩

end DepthRules.Xml

namespace DepthRules.Document

open Xml

/-! ## Text and children of a parsed document -/

/-- The text content of every element of a document and its children tell of the same text. The
children are the parts into which the content of the element falls: these spell the content as it
stands, and what they add as children is the text content. No child is empty text, and no two
children that are text stand side by side. -/
theorem parse_children_text {settings : ParseSettings} {origin : String} {bytes : List UInt8}
    {root node : Node} {above : List Node} (hparse : parse settings origin bytes = .ok root)
    (hpath : root.Path (node :: above)) (hkind : node.kind = .element) :
    ∃ (d : Xml.Document) (e : Element) (outer : List Element),
      Xml.Document.read settings.options bytes = .ok d ∧ d.Path (e :: outer) ∧
      node = e.item.toNode (scopeAt outer) ∧
      (∃ parts : List Item,
        node.children = parts.map (Item.toNode (scopeAt (e :: outer))) ∧
        parts.flatMap Item.spelling = e.content.flatMap Item.spelling ∧
        node.textContent =
          String.join (parts.map fun part => part.added (part.toNode (scopeAt (e :: outer))))) ∧
      (∀ child ∈ node.children, child.kind = .text → child.textContent ≠ "") ∧
      node.children.IsChain fun child next => ¬ (child.kind = .text ∧ next.kind = .text) := by
  cases hread : Xml.Document.read settings.options bytes with
  | error cause =>
      rw [parse, hread] at hparse
      cases hparse
  | ok d =>
      rw [parse, hread] at hparse
      cases hparse
      obtain ⟨e, outer, helements, rfl⟩ := exists_path_of_element hpath hkind
      have hchildren : (e.item.toNode (scopeAt outer)).children =
          (joined "" e.content).map (Item.toNode (scopeAt (e :: outer))) :=
        contentNodes_eq_map _ _ _
      refine ⟨d, e, outer, rfl, helements, rfl, ⟨joined "" e.content, hchildren, ?_, ?_⟩, ?_, ?_⟩
      · exact flatMap_spelling_joined "" e.content
      · simp only [added_toNode]
        exact (join_innerText_joined "" e.content).symm
      · rw [hchildren]
        intro child hchild htext
        obtain ⟨part, hpart, rfl⟩ := List.mem_map.1 hchild
        cases part with
        | text run => exact fun hempty => isFilled_of_mem_joined hpart (congrArg Item.text hempty)
        | element | comment | instruction | reference => cases htext
      · rw [hchildren, List.isChain_map]
        refine (isChain_joined "" e.content).imp fun item next hmeet htexts => hmeet ?_
        exact ⟨(kind_toNode_eq_text_iff _ item).1 htexts.1,
          (kind_toNode_eq_text_iff _ next).1 htexts.2⟩

/-- The bytes of a document with items of every kind, and literal text beside other text. -/
def mixedBytes : List UInt8 :=
  ("<!DOCTYPE a [<!ENTITY e 'x'>]>" ++
    "<a>t<!--c-->u<?p q?>&e;<b>v</b><![CDATA[w]]>z</a>").toUTF8.data.toList

/-- The root of that document. -/
def mixedRoot : Node :=
  let text (run : String) : Node := .mk .text "#text" [] run []
  .mk .element "a" [] "tu&e;vwz"
    [text "t", .mk .comment "#comment" [] "c" [], text "u", .mk .other "p" [] "q" [],
      .mk .other "e" [] "&e;" [], .mk .element "b" [] "v" [text "v"], text "wz"]

/-- In the document with items of every kind the children tell of the text content. -/
theorem parse_children_text_mixed :
    parse .standard bytesOrigin mixedBytes = .ok mixedRoot ∧
    (∃ (scope : Scope) (parts : List Item),
      mixedRoot.children = parts.map (Item.toNode scope) ∧
      "tu&e;vwz" = String.join (parts.map fun part => part.added (part.toNode scope))) ∧
    (∀ child ∈ mixedRoot.children, child.kind = .text → child.textContent ≠ "") ∧
    mixedRoot.children.IsChain fun child next => ¬ (child.kind = .text ∧ next.kind = .text) := by
  have hparse : parse .standard bytesOrigin mixedBytes = .ok mixedRoot := by cbv
  obtain ⟨-, e, outer, -, -, -, ⟨parts, hchildren, -, htext⟩, hfilled, hchain⟩ :=
    parse_children_text hparse .root rfl
  exact ⟨hparse, ⟨_, parts, hchildren, htext⟩, hfilled, hchain⟩

end DepthRules.Document
