import DepthRules.Proofs.Entries
import DepthRules.Proofs.Xml.Meaning

/-!
# Names that rules see

Rules see names with prefixes, and the declarations of these prefixes as attributes. Where the names
and the declarations of a document are consistent, what rules see is enough to know what a name
means: the declarations that are seen on the way from the root to an element are the bindings in
scope there, and in this scope the names of the element and of its attributes resolve to their
expanded names (`names_resolve`).
-/

namespace DepthRules.Xml

/-! ## Entries of an element -/

section Entries

variable {outer : Scope} {tag : Tag}

/-- Attributes with the same expanded name have the same value as rules see it. -/
theorem valueOf_eq {a b : Attribute} (ha : a ∈ tag.attributes) (h : a.expanded = b.expanded) :
    tag.valueOf b = tag.valueOf a := by
  rw [Tag.valueOf, Tag.valueOf, h]
  cases hfind : tag.attributes.find? fun c => c.expanded = b.expanded with
  | some c => rfl
  | none =>
      rw [List.find?_eq_none] at hfind
      exact absurd (decide_eq_true h) (hfind a ha)

/-- An attribute whose expanded name no other has is seen with its own value. -/
theorem valueOf_of_distinct {a : Attribute}
    (h : ∀ b ∈ tag.attributes, b.expanded = a.expanded → b = a) : tag.valueOf a = a.value := by
  rw [Tag.valueOf]
  cases hfind : tag.attributes.find? fun b => b.expanded = a.expanded with
  | none => rfl
  | some b =>
      have hb : b.expanded = a.expanded := by simpa using List.find?_some hfind
      rw [h b (List.mem_of_find?_eq_some hfind) hb]
      rfl

/-- The declarations that change the scope are seen under their names. -/
theorem mem_declarationAttributes {declarations : List (Option String × String)}
    {pfx : Option String} {uri : String} :
    (declarationName pfx, uri) ∈ declarationAttributes outer declarations ↔
      (pfx, uri) ∈ declarations ∧ outer.find? pfx ≠ some uri := by
  rw [declarationAttributes, List.mem_map]
  constructor
  · rintro ⟨⟨pfx', uri'⟩, hmem, heq⟩
    obtain ⟨hname, rfl⟩ := Prod.mk.inj heq
    obtain rfl := declarationName_injective hname
    obtain ⟨hdeclared, hchange⟩ := List.mem_filter.1 hmem
    exact ⟨hdeclared, of_decide_eq_true hchange⟩
  · rintro ⟨hdeclared, hchange⟩
    exact ⟨(pfx, uri), List.mem_filter.2 ⟨hdeclared, decide_eq_true hchange⟩, rfl⟩

/-- The entries of a tag, in the order in which they are put in. -/
def Tag.entryList (outer : Scope) (tag : Tag) : List (String × String) :=
  declarationAttributes outer tag.declarations ++
    tag.attributes.map fun a => (a.text (outer.extend tag.declarations), tag.valueOf a)

theorem entries_eq (outer : Scope) (tag : Tag) :
    tag.entries outer = Entries.ofList (tag.entryList outer) := rfl

variable (houter : outer.Sound) (h : tag.SoundIn outer)

include houter h

/-- Under the name of a declaration only a declaration is seen. -/
theorem mem_entryList_declaration {pfx : Option String} {uri : String} :
    (declarationName pfx, uri) ∈ tag.entryList outer ↔
      (pfx, uri) ∈ tag.declarations ∧ outer.find? pfx ≠ some uri := by
  rw [Tag.entryList, List.mem_append, mem_declarationAttributes, or_iff_left]
  rintro hmem
  obtain ⟨a, ha, heq⟩ := List.mem_map.1 hmem
  exact text_ne_declarationName (h.attributes a ha) (houter.extend h) pfx (Prod.mk.inj heq).1

/-- What is seen under the name of a declaration is the declaration, unless it changes nothing. -/
theorem get?_entries_declarationName (pfx : Option String) :
    (tag.entries outer).get? (declarationName pfx) =
      (Scope.find? tag.declarations pfx).filter fun uri => outer.find? pfx ≠ some uri := by
  rw [entries_eq]
  cases hfind : Scope.find? tag.declarations pfx with
  | none =>
      refine Entries.get?_ofList_of_not_mem fun uri hmem => ?_
      have hdeclared := ((mem_entryList_declaration houter h).1 hmem).1
      exact Scope.find?_eq_none_iff.1 hfind _ hdeclared rfl
  | some uri =>
      -- the prefix is declared once, so there is no other value at its name
      have honce : ∀ other, (pfx, other) ∈ tag.declarations → other = uri := by
        intro other hother
        have hfound := Scope.find?_of_mem h.declared_once hother
        rw [hfind] at hfound
        exact (Option.some.inj hfound).symm
      by_cases hchange : outer.find? pfx = some uri
      · rw [Option.filter_some, if_neg (by simpa using hchange)]
        refine Entries.get?_ofList_of_not_mem fun other hmem => ?_
        obtain ⟨hdeclared, hother⟩ := (mem_entryList_declaration houter h).1 hmem
        rw [honce other hdeclared] at hother
        exact hother hchange
      · rw [Option.filter_some, if_pos (by simpa using hchange)]
        refine Entries.get?_ofList_of_mem ?_ ?_
        · exact (mem_entryList_declaration houter h).2 ⟨Scope.mem_of_find? hfind, hchange⟩
        · intro other hmem
          exact honce other ((mem_entryList_declaration houter h).1 hmem).1

/-- Under the name of an attribute its value is seen. -/
theorem get?_entries_text {a : Attribute} (ha : a ∈ tag.attributes) :
    (tag.entries outer).get? (a.text (outer.extend tag.declarations)) = some (tag.valueOf a) := by
  have hscope := houter.extend h
  rw [entries_eq]
  refine Entries.get?_ofList_of_mem (List.mem_append_right _ (List.mem_map.2 ⟨a, ha, rfl⟩)) ?_
  intro other hmem
  -- another entry under this name is no declaration, and an attribute with the same expanded name
  rcases List.mem_append.1 hmem with hdeclared | hattribute
  · obtain ⟨d, -, heq⟩ := List.mem_map.1 hdeclared
    exact absurd (Prod.mk.inj heq).1.symm
      (text_ne_declarationName (h.attributes a ha) hscope d.1)
  · obtain ⟨b, hb, heq⟩ := List.mem_map.1 hattribute
    obtain ⟨htext, rfl⟩ := Prod.mk.inj heq
    exact valueOf_eq ha
      (expanded_eq_of_text_eq (h.attributes b hb) (h.attributes a ha) hscope htext).symm

omit houter h in
/-- What is seen besides declarations are attributes. -/
theorem exists_attribute_of_mem_keys {key : String} (hkey : key ∈ (tag.entries outer).keys)
    (hother : ∀ pfx, key ≠ declarationName pfx) :
    ∃ a ∈ tag.attributes, key = a.text (outer.extend tag.declarations) := by
  rw [entries_eq] at hkey
  obtain ⟨entry, hentry, rfl⟩ := List.mem_map.1 hkey
  rcases List.mem_append.1 (Entries.mem_of_mem_ofList hentry) with hdeclared | hattribute
  · obtain ⟨d, -, heq⟩ := List.mem_map.1 hdeclared
    exact absurd (Prod.mk.inj heq).1.symm (hother d.1)
  · obtain ⟨a, ha, heq⟩ := List.mem_map.1 hattribute
    exact ⟨a, ha, (Prod.mk.inj heq).1.symm⟩

end Entries

/-! ## From the root to an element -/

/-- The bindings that are seen as attributes on nodes, the innermost of which comes first. -/
def seen? : List Node → Option String → Option String
  | [], _ => none
  | node :: above, pfx => (node.attributes.get? (declarationName pfx)).or (seen? above pfx)

/-- Every element of the document is consistent in the scope around it. -/
def Document.Consistent (d : Document) : Prop :=
  ∀ e above, d.Path (e :: above) → e.tag.ConsistentIn (scopeAt above)

/-- Every element given is consistent in the scope of those after it. -/
def ConsistentOn : List Element → Prop
  | [] => True
  | e :: above => e.tag.ConsistentIn (scopeAt above) ∧ ConsistentOn above

theorem Document.Path.consistentOn {d : Document} (hd : d.Consistent) {elements : List Element}
    (h : d.Path elements) : ConsistentOn elements := by
  induction h with
  | root => exact ⟨hd _ _ .root, trivial⟩
  | child h hmem ih => exact ⟨hd _ _ (.child h hmem), ih⟩

theorem sound_scopeAt {elements : List Element} (h : ConsistentOn elements) :
    (scopeAt elements).Sound := by
  induction elements with
  | nil => exact Scope.sound_nil
  | cons e above ih => exact (ih h.2).extend h.1.soundIn

/-- The declarations that are seen on the way from the root are the bindings in scope. -/
theorem seen?_nodesOn {elements : List Element} (h : ConsistentOn elements) (pfx : Option String) :
    seen? (nodesOn elements) pfx = (scopeAt elements).find? pfx := by
  induction elements with
  | nil => rfl
  | cons e above ih =>
      have hattributes : (e.item.toNode (scopeAt above)).attributes =
          e.tag.entries (scopeAt above) := rfl
      rw [nodesOn, seen?, hattributes, get?_entries_declarationName (sound_scopeAt h.2) h.1.soundIn,
        ih h.2, scopeAt, Scope.find?_extend]
      cases Scope.find? e.tag.declarations pfx with
      | none => rfl
      | some uri =>
          -- a declaration that is not seen is the one that holds around the element
          by_cases hchange : (scopeAt above).find? pfx = some uri
          · rw [Option.filter_some, if_neg (by simpa using hchange), hchange, Option.none_or,
              Option.some_or]
          · rw [Option.filter_some, if_pos (by simpa using hchange), Option.some_or]

/-- What rules see of an element and of the elements around it tells what its names mean. The
declarations seen from the root to the element are the bindings in scope; in this scope the name of
the element and the names of its attributes resolve to their expanded names; and every attribute is
seen, under a name of its own and with its value. -/
theorem names_resolve {d : Document} (hd : d.Consistent) {e : Element} {above : List Element}
    (h : d.Path (e :: above)) :
    let nodes := nodesOn (e :: above)
    let node := e.item.toNode (scopeAt above)
    let scope := scopeAt (e :: above)
    d.toNode.Path nodes ∧ nodes.head? = some node ∧
      (∀ pfx, seen? nodes pfx = scope.find? pfx) ∧
      resolveElement? (seen? nodes) node.name = some e.tag.name.expanded ∧
      (∀ key ∈ node.attributes.keys, (∀ pfx, key ≠ declarationName pfx) →
        ∃ a ∈ e.tag.attributes, key = a.text scope) ∧
      (∀ a ∈ e.tag.attributes, (∀ pfx, a.text scope ≠ declarationName pfx) ∧
        resolveAttribute? (seen? nodes) (a.text scope) = some a.expanded ∧
        node.attributes.get? (a.text scope) = some (e.tag.valueOf a) ∧
        ((∀ b ∈ e.tag.attributes, b.expanded = a.expanded → b = a) →
          e.tag.valueOf a = a.value)) ∧
      ∀ a ∈ e.tag.attributes, ∀ b ∈ e.tag.attributes,
        a.text scope = b.text scope → a.expanded = b.expanded := by
  intro nodes node scope
  have hconsistent := h.consistentOn hd
  have htag : e.tag.ConsistentIn (scopeAt above) := hconsistent.1
  have houter := sound_scopeAt hconsistent.2
  have hscope : scope.Sound := houter.extend htag.soundIn
  have hseen : seen? nodes = scope.find? := funext (seen?_nodesOn hconsistent)
  rw [hseen]
  refine ⟨h.nodesOn_path, rfl, fun _ => rfl, resolveElement?_name houter htag,
    fun key hkey hother => exists_attribute_of_mem_keys hkey hother, fun a ha => ?_,
    fun a ha b hb htext => ?_⟩
  · exact ⟨text_ne_declarationName (htag.attributes a ha) hscope,
      resolveAttribute?_text (htag.attributes a ha) hscope,
      get?_entries_text houter htag.soundIn ha, valueOf_of_distinct⟩
  · exact expanded_eq_of_text_eq (htag.attributes a ha) (htag.attributes b hb) hscope htext

/-! ## A document with layers of declarations -/

/-- The element `<c xmlns:p="u:2" p:k="4" xml:k="5"/>`. -/
def innerElement : Element :=
  ⟨⟨⟨none, "c", none⟩, [(some "p", "u:2")],
    [⟨⟨some "p", "k", some "u:2"⟩, "4"⟩, ⟨⟨some "xml", "k", some xmlNamespace⟩, "5"⟩]⟩, []⟩

/-- The element `<p:b xmlns="" xmlns:p="u:3" xmlns:q="u:2" q:k="2" p:k="3">`, with the inner element
in it. -/
def middleElement : Element :=
  ⟨⟨⟨some "p", "b", some "u:3"⟩, [(none, ""), (some "p", "u:3"), (some "q", "u:2")],
    [⟨⟨some "q", "k", some "u:2"⟩, "2"⟩, ⟨⟨some "p", "k", some "u:3"⟩, "3"⟩]⟩,
    [innerElement.item]⟩

/-- The element `<a xmlns="u:1" xmlns:p="u:2" k="0" p:k="1">`, with the middle element in it. -/
def outerElement : Element :=
  ⟨⟨⟨none, "a", some "u:1"⟩, [(none, "u:1"), (some "p", "u:2")],
    [⟨⟨none, "k", none⟩, "0"⟩, ⟨⟨some "p", "k", some "u:2"⟩, "1"⟩]⟩, [middleElement.item]⟩

/-- A document that declares a prefix anew, takes the default namespace back, and declares the
prefix once more. -/
def layered : Document := ⟨outerElement.tag, outerElement.content⟩

theorem eq_of_path_layered {elements : List Element} (h : layered.Path elements) :
    elements = [outerElement] ∨ elements = [middleElement, outerElement] ∨
      elements = [innerElement, middleElement, outerElement] := by
  induction h with
  | root => exact .inl rfl
  | @child inner outer above h hmem ih =>
      obtain ⟨tag, content⟩ := inner
      rcases ih with heq | heq | heq
      · cases heq
        cases List.mem_singleton.1 hmem
        exact .inr (.inl rfl)
      · cases heq
        cases List.mem_singleton.1 hmem
        exact .inr (.inr rfl)
      · cases heq
        cases hmem

theorem consistent_layered : layered.Consistent := by
  intro e above h
  rcases eq_of_path_layered h with heq | heq | heq <;> cases heq <;> decide

/-- The names in the layered document are seen with the prefixes and bindings they have there. -/
theorem names_resolve_layered :
    layered.Consistent ∧ layered.Path [innerElement, middleElement, outerElement] ∧
      (nodesOn [innerElement, middleElement, outerElement]).map Node.attributes =
        [[("xmlns:p", "u:2"), ("p:k", "4"), ("xml:k", "5")],
          [("xmlns", ""), ("xmlns:p", "u:3"), ("xmlns:q", "u:2"), ("q:k", "2"), ("p:k", "3")],
          [("xmlns", "u:1"), ("xmlns:p", "u:2"), ("k", "0"), ("p:k", "1")]] ∧
      seen? (nodesOn [innerElement, middleElement, outerElement]) (some "p") = some "u:2" ∧
      resolveElement? (seen? (nodesOn [innerElement, middleElement, outerElement])) "c" =
        some ⟨none, "c"⟩ ∧
      resolveAttribute? (seen? (nodesOn [innerElement, middleElement, outerElement])) "p:k" =
        some ⟨some "u:2", "k"⟩ := by
  have hpath : layered.Path [innerElement, middleElement, outerElement] :=
    .child (.child .root List.mem_cons_self) List.mem_cons_self
  obtain ⟨-, -, hseen, helement, -, hattributes, -⟩ := names_resolve consistent_layered hpath
  obtain ⟨-, hattribute, -⟩ := hattributes _ List.mem_cons_self
  exact ⟨consistent_layered, hpath, by decide, (hseen (some "p")).trans (by decide), helement,
    hattribute⟩

end DepthRules.Xml
