import DepthRules.Proofs.Xml.Content
import DepthRules.Proofs.Xml.Names

/-!
# Declarations that rules see

Of the declarations on an element rules see those that change what holds around it. A declaration
that repeats the binding of its prefix is not seen (`repeated_declaration_not_seen`), and neither is
one of `xml`; all others are, and nothing that is declared only further out
(`declarations_seen_iff`). This holds of every document that is read and that keeps the constraints
of namespaces, which the reader checks only in part (`Tag.NamespaceValid`).
-/

namespace DepthRules.Xml

/-! ## The constraints of namespaces -/

/-- What namespaces ask of a tag: what it declares may be declared, and no prefix as the empty name;
there is no colon in the local name of an attribute, and no two attributes mean the same. -/
structure Tag.NamespaceValid (tag : Tag) : Prop where
  declarable : ∀ b ∈ tag.declarations, Declarable b.1 b.2
  ne_empty : ∀ b ∈ tag.declarations, b.1 ≠ none → b.2 ≠ ""
  colon_not_mem : ∀ a ∈ tag.attributes, ':' ∉ a.name.localName.toList
  distinct : ∀ a ∈ tag.attributes, ∀ b ∈ tag.attributes, a.expanded = b.expanded → a = b

instance (tag : Tag) : Decidable tag.NamespaceValid :=
  decidable_of_iff ((∀ b ∈ tag.declarations, Declarable b.1 b.2) ∧
      (∀ b ∈ tag.declarations, b.1 ≠ none → b.2 ≠ "") ∧
      (∀ a ∈ tag.attributes, ':' ∉ a.name.localName.toList) ∧
      ∀ a ∈ tag.attributes, ∀ b ∈ tag.attributes, a.expanded = b.expanded → a = b)
    ⟨fun ⟨hdeclarable, hempty, hcolon, hdistinct⟩ => ⟨hdeclarable, hempty, hcolon, hdistinct⟩,
      fun ⟨hdeclarable, hempty, hcolon, hdistinct⟩ => ⟨hdeclarable, hempty, hcolon, hdistinct⟩⟩

mutual

/-- The tags in an item. -/
def Item.tags : Item → List Tag
  | .element tag content => tag :: allTags content
  | _ => []

/-- The tags in several items. -/
def allTags : List Item → List Tag
  | [] => []
  | item :: rest => item.tags ++ allTags rest

end

theorem tags_subset_allTags {item : Item} {items : List Item} (h : item ∈ items) :
    item.tags ⊆ allTags items := by
  induction items with
  | nil => exact absurd h List.not_mem_nil
  | cons first rest ih =>
      rw [allTags]
      rcases List.mem_cons.1 h with rfl | hrest
      · exact List.subset_append_left _ _
      · exact List.subset_append_of_subset_right _ (ih hrest)

/-- Every tag of the document keeps the constraints of namespaces. -/
def Document.NamespaceValid (d : Document) : Prop := ∀ tag ∈ d.root.tags, tag.NamespaceValid

instance (d : Document) : Decidable d.NamespaceValid :=
  inferInstanceAs (Decidable (∀ tag ∈ d.root.tags, tag.NamespaceValid))

/-- The tags in an element are tags of the document it is in. -/
theorem Document.Path.tags_subset {d : Document} {e : Element} {above : List Element}
    (h : d.Path (e :: above)) : e.item.tags ⊆ d.root.tags := by
  generalize helements : e :: above = elements at h
  induction h generalizing e above with
  | root =>
      cases helements
      exact List.Subset.refl _
  | @child inner outer rest houter hmem ih =>
      cases helements
      have hinner : inner.item.tags ⊆ outer.item.tags :=
        List.subset_cons_of_subset _ (tags_subset_allTags hmem)
      exact List.Subset.trans hinner (ih rfl)

theorem Document.Path.namespaceValid {d : Document} (hvalid : d.NamespaceValid) {e : Element}
    {above : List Element} (h : d.Path (e :: above)) : e.tag.NamespaceValid :=
  hvalid e.tag (h.tags_subset List.mem_cons_self)

/-- No prefix is bound to the empty name. -/
def Scope.Filled (scope : Scope) : Prop := ∀ b ∈ scope, b.1 ≠ none → b.2 ≠ ""

theorem Scope.Filled.extend {outer : Scope} (h : outer.Filled) {tag : Tag}
    (hvalid : tag.NamespaceValid) : (outer.extend tag.declarations).Filled := by
  intro b hb
  rcases List.mem_append.1 hb with hb | hb
  · exact hvalid.ne_empty b hb
  · exact h b (List.mem_filter.1 hb).1

/-- An attribute whose name is bound is consistent with the scope, if no colon is left in it. -/
theorem Attribute.BoundIn.consistentIn {scope : Scope} {a : Attribute} (h : a.BoundIn scope)
    (hfilled : scope.Filled) (hcolon : ':' ∉ a.name.localName.toList) :
    a.ConsistentIn scope where
  isLocal := ⟨hcolon, h.brace_not_mem⟩
  bound := by
    intro uri huri
    obtain ⟨⟨pfx, localName, uri'⟩, value⟩ := a
    cases h.name with
    | unprefixed => cases huri
    | xml => exact .inl (Option.some.inj huri).symm
    | bound _ _ hfind =>
        cases huri
        have hmem := Scope.mem_of_find? hfind
        exact .inr ⟨hfilled _ hmem (by simp), _, hmem, by simp, rfl⟩
  unbound := by
    intro huri
    refine h.unprefixed ?_
    obtain ⟨⟨pfx, localName, uri⟩, value⟩ := a
    cases h.name with
    | unprefixed => rfl
    | xml => cases huri
    | bound => cases huri

/-- A bound tag that keeps the constraints of namespaces is sound. -/
theorem Tag.BoundIn.soundIn {outer : Scope} {tag : Tag} (h : tag.BoundIn outer)
    (hvalid : tag.NamespaceValid) (hfilled : outer.Filled) : tag.SoundIn outer where
  declared_once := h.declared_once
  declarable := hvalid.declarable
  attributes := fun a ha =>
    (h.attributes a ha).consistentIn (hfilled.extend hvalid) (hvalid.colon_not_mem a ha)

/-- The scope around every element of a valid document is sound and names namespaces, and so is the
tag of the element in it. -/
theorem Document.Path.soundIn {d : Document} (hbound : d.Bound) (hvalid : d.NamespaceValid)
    {e : Element} {above : List Element} (h : d.Path (e :: above)) :
    (scopeAt above).Sound ∧ (scopeAt above).Filled ∧ e.tag.SoundIn (scopeAt above) := by
  have htag {e : Element} {above : List Element} (h : d.Path (e :: above))
      (hfilled : (scopeAt above).Filled) : e.tag.SoundIn (scopeAt above) :=
    (h.boundIn hbound).tag.soundIn (h.namespaceValid hvalid) hfilled
  generalize helements : e :: above = elements at h
  induction h generalizing e above with
  | root =>
      cases helements
      have hfilled : Scope.Filled [] := fun b hb => absurd hb List.not_mem_nil
      exact ⟨Scope.sound_nil, hfilled, htag .root hfilled⟩
  | @child inner outer rest houter hmem ih =>
      cases helements
      obtain ⟨hsound, hfilled, houterTag⟩ := ih rfl
      have hinside := hfilled.extend (houter.namespaceValid hvalid)
      exact ⟨hsound.extend houterTag, hinside, htag (.child houter hmem) hinside⟩

/-! ## Declarations on an element -/

/-- Of the declarations on a tag those are seen that change what holds around it. -/
theorem get?_entries_declaration_iff {outer : Scope} {tag : Tag} (houter : outer.Sound)
    (h : tag.SoundIn outer) {pfx : Option String} {uri : String} :
    (tag.entries outer).get? (declarationName pfx) = some uri ↔
      (pfx, uri) ∈ tag.declarations ∧ outer.find? pfx ≠ some uri := by
  rw [get?_entries_declarationName houter h, Option.filter_eq_some_iff]
  refine and_congr ⟨Scope.mem_of_find?, Scope.find?_of_mem h.declared_once⟩ ?_
  exact decide_eq_true_iff

/-- What rules see of the declarations on an element of a document that is read: a declaration on
its tag, unless the prefix stands for the same namespace around the element already; nothing that is
declared further out alone; and no declaration of `xml`. -/
theorem declarations_seen_iff {options : Options} {bytes : List UInt8} {d : Document}
    (hread : Document.read options bytes = .ok d) (hvalid : d.NamespaceValid) {e : Element}
    {above : List Element} (h : d.Path (e :: above)) :
    let nodes := nodesOn (e :: above)
    let node := e.item.toNode (scopeAt above)
    d.toNode.Path nodes ∧ nodes.head? = some node ∧
      (∀ pfx uri, node.attributes.get? (declarationName pfx) = some uri ↔
        (pfx, uri) ∈ e.tag.declarations ∧ (scopeAt above).find? pfx ≠ some uri) ∧
      (∀ pfx, (∀ uri, (pfx, uri) ∉ e.tag.declarations) →
        node.attributes.get? (declarationName pfx) = none) ∧
      node.attributes.get? (declarationName (some "xml")) = none := by
  intro nodes node
  have hbound := bound_of_read hread
  obtain ⟨hsound, -, htag⟩ := h.soundIn hbound hvalid
  have hseen (pfx : Option String) (uri : String) :
      node.attributes.get? (declarationName pfx) = some uri ↔
        (pfx, uri) ∈ e.tag.declarations ∧ (scopeAt above).find? pfx ≠ some uri :=
    get?_entries_declaration_iff hsound htag
  have hnone (pfx : Option String) (hpfx : ∀ uri, (pfx, uri) ∉ e.tag.declarations) :
      node.attributes.get? (declarationName pfx) = none := by
    rw [Option.eq_none_iff_forall_ne_some]
    intro uri huri
    exact hpfx uri ((hseen pfx uri).1 huri).1
  refine ⟨h.nodesOn_path, rfl, hseen, hnone, hnone _ fun uri hxml => ?_⟩
  exact (h.boundIn hbound).tag.ne_xml _ hxml rfl

/-! ## A document that repeats a declaration -/

/-- The bytes of a document in which the default namespace is taken back, a declaration is repeated,
and one is new. -/
def repeatedBytes : List UInt8 :=
  ("<a xmlns='urn:0' xmlns:p='urn:1'>" ++
    "<b xmlns='' xmlns:p='urn:1' xmlns:q='urn:1'/></a>").toUTF8.data.toList

/-- The inner element of that document. -/
def repeatingElement : Element :=
  ⟨⟨⟨none, "b", none⟩, [(none, ""), (some "p", "urn:1"), (some "q", "urn:1")], []⟩, []⟩

/-- Its outer element. -/
def repeatedElement : Element :=
  ⟨⟨⟨none, "a", some "urn:0"⟩, [(none, "urn:0"), (some "p", "urn:1")], []⟩,
    [repeatingElement.item]⟩

/-- That document. -/
def repeated : Document := ⟨repeatedElement.tag, repeatedElement.content⟩

theorem read_repeated : Document.read ⟨false, false, false⟩ repeatedBytes = .ok repeated := by
  decide +kernel

/-- In that document the declaration that takes a namespace back and the new one are seen on the
inner element, and the repeated one is not. -/
theorem declarations_seen_repeated :
    Document.read ⟨false, false, false⟩ repeatedBytes = .ok repeated ∧ repeated.NamespaceValid ∧
      repeated.toNode.Path (nodesOn [repeatingElement, repeatedElement]) ∧
      (repeatingElement.item.toNode (scopeAt [repeatedElement])).attributes.get? "xmlns" =
        some "" ∧
      (repeatingElement.item.toNode (scopeAt [repeatedElement])).attributes.get? "xmlns:q" =
        some "urn:1" ∧
      ¬ (repeatingElement.item.toNode (scopeAt [repeatedElement])).attributes.get? "xmlns:p" =
        some "urn:1" ∧
      (repeatingElement.item.toNode (scopeAt [repeatedElement])).attributes.get? "xmlns:r" =
        none := by
  have hvalid : repeated.NamespaceValid := by decide
  have hpath : repeated.Path [repeatingElement, repeatedElement] :=
    .child .root List.mem_cons_self
  obtain ⟨hnodes, -, hseen, hnone, -⟩ :=
    declarations_seen_iff read_repeated hvalid hpath
  refine ⟨read_repeated, hvalid, hnodes, ?_, ?_, ?_, ?_⟩
  · exact (hseen none "").2 (by decide)
  · exact (hseen (some "q") "urn:1").2 (by decide)
  · exact fun hp => absurd ((hseen (some "p") "urn:1").1 hp) (by decide)
  · exact hnone (some "r") (by simp [repeatingElement])

/-- Not every declaration on an element is seen: one that repeats the binding around it is not. -/
theorem repeated_declaration_not_seen :
    ¬ ∀ (options : Options) (bytes : List UInt8) (d : Document) (e : Element)
      (above : List Element), Document.read options bytes = .ok d → d.NamespaceValid →
      d.Path (e :: above) → ∀ pfx uri, (pfx, uri) ∈ e.tag.declarations →
        (e.item.toNode (scopeAt above)).attributes.get? (declarationName pfx) = some uri := by
  intro hall
  have hvalid : repeated.NamespaceValid := by decide
  have hpath : repeated.Path [repeatingElement, repeatedElement] :=
    .child .root List.mem_cons_self
  have hseen := hall _ _ _ _ _ read_repeated hvalid hpath (some "p") "urn:1"
    (by decide)
  exact absurd hseen (by decide)

end DepthRules.Xml
