import DepthRules.Proofs.Xml.Path

/-!
# Names whose prefixes are bound

The prefix of an attribute is `xml`, or it is bound to the namespace of the attribute in the scope
inside the element. `Tag.BoundIn` says so of all attributes of a tag, and that the tag declares a
prefix once; `Item.BoundIn` says it of all tags in an item, each in the scope of its place. What is
bound in a scope stays so where more is bound (`Item.BoundIn.mono`), so that an item can be put in
further inside a document.
-/

namespace DepthRules.Xml

/-! ## More bindings -/

/-- Every prefix that is bound in the first scope is bound to the same namespace in the second. -/
def Scope.Within (inner outer : Scope) : Prop :=
  ∀ pfx uri, inner.find? pfx = some uri → outer.find? pfx = some uri

namespace Scope

variable {scope other : Scope} {declarations : List (Option String × String)}

theorem nil_within (scope : Scope) : Within [] scope := by
  intro pfx uri h
  cases h

theorem within_of_find?_eq (h : scope.find? = other.find?) : scope.Within other := by
  intro pfx uri hfind
  rw [← h, hfind]

/-- Declarations hide the same bindings in both scopes. -/
theorem Within.extend (h : scope.Within other) :
    (scope.extend declarations).Within (other.extend declarations) := by
  intro pfx uri hfind
  rw [find?_extend] at hfind ⊢
  cases hdeclared : Scope.find? declarations pfx with
  | some found => rwa [hdeclared, Option.some_or] at hfind
  | none =>
      rw [hdeclared, Option.none_or] at hfind
      rw [Option.none_or]
      exact h pfx uri hfind

/-- Declarations put before a scope are found as in the scope that they extend. -/
theorem find?_append (declarations : List (Option String × String)) (scope : Scope) :
    Scope.find? (declarations ++ scope) = (scope.extend declarations).find? := by
  funext pfx
  rw [find?_extend, find?, List.find?_append, Option.map_or]
  rfl

end Scope

/-! ## Bound names -/

/-- A name has no prefix, or the prefix `xml`, or one that is bound to its namespace. -/
inductive QName.BoundIn (scope : Scope) : QName → Prop where
  | unprefixed (localName : String) : BoundIn scope ⟨none, localName, none⟩
  | xml (localName : String) : BoundIn scope ⟨some "xml", localName, some xmlNamespace⟩
  | bound (localName : String) {pfx uri : String} (hxml : pfx ≠ "xml")
      (h : scope.find? (some pfx) = some uri) : BoundIn scope ⟨some pfx, localName, some uri⟩

/-- The name of an attribute is bound, and it is not that of a declaration. -/
structure Attribute.BoundIn (scope : Scope) (a : Attribute) : Prop where
  name : a.name.BoundIn scope
  brace_not_mem : '\x7b' ∉ a.name.localName.toList
  unprefixed : a.name.pfx = none → a.name.localName ≠ "xmlns"

/-- A tag declares a prefix once, and `xml` not at all, and its attributes are bound in the scope
inside it. -/
structure Tag.BoundIn (outer : Scope) (tag : Tag) : Prop where
  declared_once : (tag.declarations.map Prod.fst).Nodup
  ne_xml : ∀ b ∈ tag.declarations, b.1 ≠ some "xml"
  attributes : ∀ a ∈ tag.attributes, a.BoundIn (outer.extend tag.declarations)

/-- All tags in an item are bound, each in the scope of its place. -/
inductive Item.BoundIn : Scope → Item → Prop where
  | element {outer : Scope} {tag : Tag} {content : List Item} (htag : tag.BoundIn outer)
      (hcontent : ∀ item ∈ content, item.BoundIn (outer.extend tag.declarations)) :
      BoundIn outer (.element tag content)
  | text (scope : Scope) (run : String) : BoundIn scope (.text run)
  | comment (scope : Scope) (body : String) : BoundIn scope (.comment body)
  | instruction (scope : Scope) (target body : String) : BoundIn scope (.instruction target body)
  | reference (scope : Scope) (entity : String) : BoundIn scope (.reference entity)

section Mono

variable {scope other : Scope}

theorem QName.BoundIn.mono {name : QName} (h : name.BoundIn scope) (hle : scope.Within other) :
    name.BoundIn other := by
  cases h with
  | unprefixed localName => exact .unprefixed localName
  | xml localName => exact .xml localName
  | bound localName hxml hfind => exact .bound localName hxml (hle _ _ hfind)

theorem Attribute.BoundIn.mono {a : Attribute} (h : a.BoundIn scope) (hle : scope.Within other) :
    a.BoundIn other where
  name := h.name.mono hle
  brace_not_mem := h.brace_not_mem
  unprefixed := h.unprefixed

theorem Tag.BoundIn.mono {tag : Tag} (h : tag.BoundIn scope) (hle : scope.Within other) :
    tag.BoundIn other where
  declared_once := h.declared_once
  ne_xml := h.ne_xml
  attributes := fun a ha => (h.attributes a ha).mono hle.extend

/-- What is bound in a scope is bound where more is. -/
theorem Item.BoundIn.mono {item : Item} (h : item.BoundIn scope) (hle : scope.Within other) :
    item.BoundIn other := by
  induction h generalizing other with
  | element htag _ ih => exact .element (htag.mono hle) fun item hitem => ih item hitem hle.extend
  | text _ run => exact .text _ run
  | comment _ body => exact .comment _ body
  | instruction _ target body => exact .instruction _ target body
  | reference _ entity => exact .reference _ entity

end Mono

/-! ## Documents with bound names -/

/-- All tags of a document are bound. -/
def Document.Bound (d : Document) : Prop := d.root.BoundIn []

theorem Item.BoundIn.tag {outer : Scope} {e : Element} (h : e.item.BoundIn outer) :
    e.tag.BoundIn outer := by
  cases h with
  | element htag _ => exact htag

theorem Item.BoundIn.content {outer : Scope} {e : Element} (h : e.item.BoundIn outer) :
    ∀ item ∈ e.content, item.BoundIn (outer.extend e.tag.declarations) := by
  cases h with
  | element _ hcontent => exact hcontent

/-- Every element of the document is bound in the scope around it. -/
theorem Document.Path.boundIn {d : Document} (hd : d.Bound) {e : Element} {above : List Element}
    (h : d.Path (e :: above)) : e.item.BoundIn (scopeAt above) := by
  generalize helements : e :: above = elements at h
  induction h generalizing e above with
  | root =>
      cases helements
      exact hd
  | child _ hmem ih =>
      cases helements
      exact (ih rfl).content _ hmem

end DepthRules.Xml
