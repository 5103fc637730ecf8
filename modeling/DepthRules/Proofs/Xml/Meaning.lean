import DepthRules.Proofs.Text.Split
import DepthRules.Proofs.Xml.Path

/-!
# What names mean

A name is resolved in a scope to an expanded name: a prefix stands for the namespace it is bound to,
an element without a prefix has the default namespace, and an attribute without one has none. Where
a tag is consistent with the scope it stands in (`Tag.ConsistentIn`), its name and the names of its
attributes, as rules see them, resolve to their expanded names (`resolveElement?_name`,
`resolveAttribute?_text`), and no attribute has the name of a declaration.
-/

namespace DepthRules.Xml

open Text

/-! ## What a name means -/

/-- What a prefix stands for where the bindings are as given. The prefix `xml` has a fixed meaning,
and a binding to the empty name counts as none. -/
def meaning? (find : Option String → Option String) (pfx : Option String) : Option String :=
  if pfx = some "xml" then some xmlNamespace else (find pfx).filter fun uri => !uri.isEmpty

/-- The expanded name of a name as it is written, where names without a prefix have the namespace
`unprefixed`. -/
def resolve? (find : Option String → Option String) (unprefixed : Option String) (name : String) :
    Option ExpandedName :=
  match splitFirst ':' name.toList with
  | (localName, none) => some ⟨unprefixed, String.ofList localName⟩
  | (pfx, some localName) =>
      (meaning? find (some (String.ofList pfx))).map fun uri => ⟨some uri, String.ofList localName⟩

/-- The expanded name of an element, which has the default namespace if it has no prefix. -/
def resolveElement? (find : Option String → Option String) (name : String) : Option ExpandedName :=
  resolve? find (meaning? find none) name

/-- The expanded name of an attribute, which has no namespace if it has no prefix. -/
def resolveAttribute? (find : Option String → Option String) (name : String) :
    Option ExpandedName :=
  resolve? find none name

/-! ## Consistent tags -/

/-- Bindings that may be declared: there is no closing brace in the namespace and no colon in the
prefix, `xmlns` is not bound, and `xml` only to its own namespace. -/
structure Declarable (pfx : Option String) (uri : String) : Prop where
  brace_not_mem : '\x7d' ∉ uri.toList
  colon_not_mem : ∀ p ∈ pfx, ':' ∉ p.toList
  ne_xmlns : pfx ≠ some "xmlns"
  eq_xml : pfx = some "xml" → uri = xmlNamespace

instance (pfx : Option String) (uri : String) : Decidable (Declarable pfx uri) :=
  decidable_of_iff ('\x7d' ∉ uri.toList ∧ (∀ p ∈ pfx, ':' ∉ p.toList) ∧ pfx ≠ some "xmlns" ∧
      (pfx = some "xml" → uri = xmlNamespace))
    ⟨fun ⟨hbrace, hcolon, hxmlns, hxml⟩ => ⟨hbrace, hcolon, hxmlns, hxml⟩,
      fun ⟨hbrace, hcolon, hxmlns, hxml⟩ => ⟨hbrace, hcolon, hxmlns, hxml⟩⟩

/-- Local names: there is no colon in them and no opening brace. -/
structure IsLocal (name : String) : Prop where
  colon_not_mem : ':' ∉ name.toList
  brace_not_mem : '\x7b' ∉ name.toList

instance (name : String) : Decidable (IsLocal name) :=
  decidable_of_iff (':' ∉ name.toList ∧ '\x7b' ∉ name.toList)
    ⟨fun ⟨hcolon, hbrace⟩ => ⟨hcolon, hbrace⟩, fun ⟨hcolon, hbrace⟩ => ⟨hcolon, hbrace⟩⟩

/-- The name of an attribute is a local name, and its namespace is that of `xml` or one that a
prefix is bound to. The name that declares the default namespace is not that of an attribute. -/
structure Attribute.ConsistentIn (scope : Scope) (a : Attribute) : Prop where
  isLocal : IsLocal a.name.localName
  bound : ∀ uri ∈ a.name.uri, uri = xmlNamespace ∨
    uri ≠ "" ∧ ∃ b ∈ scope, b.1 ≠ none ∧ b.2 = uri
  unbound : a.name.uri = none → a.name.localName ≠ "xmlns"

instance (scope : Scope) (a : Attribute) : Decidable (a.ConsistentIn scope) :=
  decidable_of_iff (IsLocal a.name.localName ∧
      (∀ uri ∈ a.name.uri, uri = xmlNamespace ∨
        uri ≠ "" ∧ ∃ b ∈ scope, b.1 ≠ none ∧ b.2 = uri) ∧
      (a.name.uri = none → a.name.localName ≠ "xmlns"))
    ⟨fun ⟨hlocal, hbound, hunbound⟩ => ⟨hlocal, hbound, hunbound⟩,
      fun ⟨hlocal, hbound, hunbound⟩ => ⟨hlocal, hbound, hunbound⟩⟩

/-- A tag in the scope around it declares each prefix once, its name is a local name with the
namespace that its prefix stands for inside it, and its attributes are consistent. -/
structure Tag.ConsistentIn (outer : Scope) (tag : Tag) : Prop where
  declared_once : (tag.declarations.map Prod.fst).Nodup
  declarable : ∀ b ∈ tag.declarations, Declarable b.1 b.2
  isLocal : IsLocal tag.name.localName
  uri_eq : tag.name.uri = meaning? (outer.extend tag.declarations).find? tag.name.pfx
  bound : tag.name.pfx ≠ none → tag.name.uri ≠ none
  attributes : ∀ a ∈ tag.attributes, a.ConsistentIn (outer.extend tag.declarations)

instance (outer : Scope) (tag : Tag) : Decidable (tag.ConsistentIn outer) :=
  decidable_of_iff ((tag.declarations.map Prod.fst).Nodup ∧
      (∀ b ∈ tag.declarations, Declarable b.1 b.2) ∧ IsLocal tag.name.localName ∧
      tag.name.uri = meaning? (outer.extend tag.declarations).find? tag.name.pfx ∧
      (tag.name.pfx ≠ none → tag.name.uri ≠ none) ∧
      ∀ a ∈ tag.attributes, a.ConsistentIn (outer.extend tag.declarations))
    ⟨fun ⟨honce, hdeclarable, hlocal, huri, hbound, hattributes⟩ =>
        ⟨honce, hdeclarable, hlocal, huri, hbound, hattributes⟩,
      fun ⟨honce, hdeclarable, hlocal, huri, hbound, hattributes⟩ =>
        ⟨honce, hdeclarable, hlocal, huri, hbound, hattributes⟩⟩

/-- What a tag declares and its attributes are consistent with the scope around it, whatever its
own name. -/
structure Tag.SoundIn (outer : Scope) (tag : Tag) : Prop where
  declared_once : (tag.declarations.map Prod.fst).Nodup
  declarable : ∀ b ∈ tag.declarations, Declarable b.1 b.2
  attributes : ∀ a ∈ tag.attributes, a.ConsistentIn (outer.extend tag.declarations)

theorem Tag.ConsistentIn.soundIn {outer : Scope} {tag : Tag} (h : tag.ConsistentIn outer) :
    tag.SoundIn outer := ⟨h.declared_once, h.declarable, h.attributes⟩

/-! ## Reading names -/

theorem toList_qualify (pfx localName : String) :
    (qualify pfx localName).toList = pfx.toList ++ ':' :: localName.toList := by
  simp [qualify]

theorem splitFirst_qualify {pfx : String} (h : ':' ∉ pfx.toList) (localName : String) :
    splitFirst ':' (qualify pfx localName).toList = (pfx.toList, some localName.toList) := by
  rw [toList_qualify, splitFirst_append_cons h]

section Resolve

variable {find : Option String → Option String} {unprefixed : Option String} {localName : String}

theorem resolve?_local (h : ':' ∉ localName.toList) :
    resolve? find unprefixed localName = some ⟨unprefixed, localName⟩ := by
  rw [resolve?, splitFirst_of_not_mem h]
  dsimp only
  rw [String.ofList_toList]

theorem resolve?_qualify {pfx uri : String} (h : ':' ∉ pfx.toList)
    (hmeaning : meaning? find (some pfx) = some uri) :
    resolve? find unprefixed (qualify pfx localName) = some ⟨some uri, localName⟩ := by
  rw [resolve?, splitFirst_qualify h]
  dsimp only
  rw [String.ofList_toList, String.ofList_toList, hmeaning, Option.map_some]

end Resolve

theorem splitFirst_declarationName (pfx : Option String) :
    splitFirst ':' (declarationName pfx).toList = ("xmlns".toList, pfx.map String.toList) := by
  cases pfx with
  | none => rfl
  | some p => exact splitFirst_qualify (by decide) p

theorem declarationName_injective : Function.Injective declarationName := by
  intro pfx other h
  have hsplit := splitFirst_declarationName pfx
  rw [h, splitFirst_declarationName other] at hsplit
  have htexts : Function.Injective String.toList := fun _ _ => String.toList_injective
  exact (Option.map_injective htexts (Prod.mk.inj hsplit).2).symm

/-- A name whose first part is not that of a declaration declares nothing. -/
theorem qualify_ne_declarationName {pfx : String} (h : ':' ∉ pfx.toList) (hne : pfx ≠ "xmlns")
    (localName : String) (other : Option String) :
    qualify pfx localName ≠ declarationName other := by
  intro heq
  have hsplit := splitFirst_qualify h localName
  rw [heq, splitFirst_declarationName] at hsplit
  exact hne (String.toList_injective (Prod.mk.inj hsplit).1.symm)

theorem local_ne_declarationName {localName : String} (h : ':' ∉ localName.toList)
    (hne : localName ≠ "xmlns") (other : Option String) : localName ≠ declarationName other := by
  intro heq
  have hsplit := splitFirst_declarationName other
  rw [← heq, splitFirst_of_not_mem h] at hsplit
  exact hne (String.toList_injective (Prod.mk.inj hsplit).1)

/-- Without braces inside its parts an expanded name is read back from its written form. -/
theorem reread_eq {name : ExpandedName}
    (huri : ∀ uri, name.namespaceUri = some uri → '\x7d' ∉ uri.toList)
    (hlocal : '\x7b' ∉ name.localName.toList) : name.reread = name := by
  obtain ⟨uri?, localName⟩ := name
  have hread : ExpandedName.parse? (ExpandedName.text ⟨uri?, localName⟩) =
      some ⟨uri?, localName⟩ := by
    cases uri? with
    | none =>
        rw [ExpandedName.text, ExpandedName.parse?]
        split
        · rename_i rest hrest
          dsimp only at hlocal
          rw [hrest] at hlocal
          exact absurd List.mem_cons_self hlocal
        · rfl
    | some uri =>
        have htext : (ExpandedName.text ⟨some uri, localName⟩).toList =
            '\x7b' :: (uri.toList ++ '\x7d' :: localName.toList) := by
          simp [ExpandedName.text]
        rw [ExpandedName.parse?, htext]
        simp only [splitFirst_append_cons (huri uri rfl), String.ofList_toList]
  rw [ExpandedName.reread, hread, Option.getD_some]

/-! ## Scopes of declarations -/

/-- A scope that consists of bindings that may be declared, one for each prefix. -/
structure Scope.Sound (scope : Scope) : Prop where
  nodup : (scope.map Prod.fst).Nodup
  declarable : ∀ b ∈ scope, Declarable b.1 b.2

theorem Scope.sound_nil : Scope.Sound [] where
  nodup := List.nodup_nil
  declarable := fun _ hb => absurd hb List.not_mem_nil

/-- The scope inside an element is sound if the one around it is. -/
theorem Scope.Sound.extend {outer : Scope} (h : outer.Sound) {tag : Tag}
    (htag : tag.SoundIn outer) : (outer.extend tag.declarations).Sound where
  nodup := Scope.nodup_extend htag.declared_once h.nodup
  declarable := by
    intro b hb
    rcases List.mem_append.1 hb with hb | hb
    · exact htag.declarable b hb
    · exact h.declarable b (List.mem_filter.1 hb).1

/-- What a prefix stands for is fixed or bound to it. -/
theorem mem_of_meaning? {scope : Scope} {pfx : Option String} {uri : String}
    (h : meaning? scope.find? pfx = some uri) :
    pfx = some "xml" ∧ uri = xmlNamespace ∨ (pfx, uri) ∈ scope ∧ uri ≠ "" := by
  rw [meaning?] at h
  by_cases hxml : pfx = some "xml"
  · rw [if_pos hxml] at h
    exact .inl ⟨hxml, (Option.some.inj h).symm⟩
  · rw [if_neg hxml, Option.filter_eq_some_iff] at h
    obtain ⟨hfind, hne⟩ := h
    refine .inr ⟨Scope.mem_of_find? hfind, ?_⟩
    rintro rfl
    exact absurd hne (by decide)

namespace Scope.Sound

variable {scope : Scope} {uri : String}

/-- A binding to a name that is not empty is what its prefix stands for. -/
theorem meaning?_of_mem (hscope : scope.Sound) {p : String} (huri : uri ≠ "")
    (hmem : (some p, uri) ∈ scope) : meaning? scope.find? (some p) = some uri := by
  by_cases hxml : some p = some "xml"
  · have hfixed : uri = xmlNamespace := (hscope.declarable _ hmem).eq_xml hxml
    rw [meaning?, if_pos hxml, hfixed]
  · rw [meaning?, if_neg hxml, Scope.find?_of_mem hscope.nodup hmem]
    simpa using huri

/-- There is no colon in a prefix that stands for something. -/
theorem colon_not_mem (hscope : scope.Sound) {p : String}
    (h : meaning? scope.find? (some p) = some uri) : ':' ∉ p.toList := by
  rcases mem_of_meaning? h with ⟨hxml, -⟩ | ⟨hmem, -⟩
  · rw [Option.some.inj hxml]
    decide
  · exact (hscope.declarable _ hmem).colon_not_mem p rfl

/-- There is no closing brace in what a prefix stands for. -/
theorem brace_not_mem (hscope : scope.Sound) {pfx : Option String}
    (h : meaning? scope.find? pfx = some uri) : '\x7d' ∉ uri.toList := by
  rcases mem_of_meaning? h with ⟨-, hxml⟩ | ⟨hmem, -⟩
  · rw [hxml]
    decide
  · exact (hscope.declarable _ hmem).brace_not_mem

/-- The search for a prefix finds one that stands for the namespace, if there is any. -/
theorem exists_prefixFor? (hscope : scope.Sound) {b : Option String × String} (hb : b ∈ scope)
    (hpfx : b.1 ≠ none) (huri : b.2 ≠ "") :
    ∃ found, ExpandedName.prefixFor? scope b.2 = some found ∧ found ≠ "xmlns" ∧
      meaning? scope.find? (some found) = some b.2 := by
  cases hfound : ExpandedName.prefixFor? scope b.2 with
  | none =>
      rw [ExpandedName.prefixFor?, List.findSome?_eq_none_iff] at hfound
      have hnone := hfound b hb
      rw [if_pos rfl] at hnone
      exact absurd hnone hpfx
  | some found =>
      obtain ⟨other, hother, hsome⟩ := List.exists_of_findSome?_eq_some hfound
      split at hsome
      · rename_i hbound
        have hmem : (some found, b.2) ∈ scope := by
          rw [← hsome, ← hbound]
          exact hother
        refine ⟨found, rfl, ?_, hscope.meaning?_of_mem huri hmem⟩
        rintro rfl
        exact (hscope.declarable _ hmem).ne_xmlns rfl
      · cases hsome

end Scope.Sound

/-! ## Names of elements -/

theorem QName.text_of_unprefixed {name : QName} (hreread : name.expanded.reread = name.expanded)
    (hpfx : name.pfx = none) : name.text = name.localName := by
  rw [QName.text, hreread, hpfx, QName.expanded]
  cases name.uri <;> rfl

theorem QName.text_of_prefixed {name : QName} (hreread : name.expanded.reread = name.expanded)
    {p uri : String} (hpfx : name.pfx = some p) (huri : name.uri = some uri) :
    name.text = qualify p name.localName := by
  rw [QName.text, hreread, hpfx, QName.expanded, huri]

/-- The name of an element as rules see it resolves to its expanded name. -/
theorem resolveElement?_name {outer : Scope} (houter : outer.Sound) {tag : Tag}
    (h : tag.ConsistentIn outer) :
    resolveElement? (outer.extend tag.declarations).find? tag.name.text =
      some tag.name.expanded := by
  have hscope := houter.extend h.soundIn
  have hreread : tag.name.expanded.reread = tag.name.expanded := by
    refine reread_eq ?_ h.isLocal.brace_not_mem
    intro uri huri
    exact hscope.brace_not_mem (h.uri_eq.symm.trans huri)
  cases hpfx : tag.name.pfx with
  | none =>
      have huri := h.uri_eq
      rw [hpfx] at huri
      rw [QName.text_of_unprefixed hreread hpfx, resolveElement?,
        resolve?_local h.isLocal.colon_not_mem, QName.expanded, huri]
  | some p =>
      have hbound : tag.name.uri ≠ none := h.bound (by simp [hpfx])
      obtain ⟨uri, huri⟩ := Option.ne_none_iff_exists'.1 hbound
      have hmeaning : meaning? (outer.extend tag.declarations).find? (some p) = some uri := by
        rw [← hpfx, ← h.uri_eq, huri]
      rw [QName.text_of_prefixed hreread hpfx huri, resolveElement?,
        resolve?_qualify (hscope.colon_not_mem hmeaning) hmeaning, QName.expanded, huri]

/-! ## Names of attributes -/

/-- The prefix with which attributes of a namespace are seen in a scope: `xml` for its own
namespace, and otherwise the first one that is bound to the namespace. -/
structure Scope.Shows (scope : Scope) (uri pfx : String) : Prop where
  xml : uri = xmlNamespace → pfx = "xml"
  first : uri ≠ xmlNamespace → ∃ before after, scope = before ++ (some pfx, uri) :: after ∧
    ∀ b ∈ before, b.2 = uri → b.1 = none

/-- The prefix that is found is the first one bound to the namespace. -/
theorem prefixFor?_eq_some_iff {scope : Scope} {uri pfx : String} :
    ExpandedName.prefixFor? scope uri = some pfx ↔
      ∃ before after, scope = before ++ (some pfx, uri) :: after ∧
        ∀ b ∈ before, b.2 = uri → b.1 = none := by
  rw [ExpandedName.prefixFor?, List.findSome?_eq_some_iff]
  constructor
  · rintro ⟨before, ⟨p, u⟩, after, rfl, hfound, hbefore⟩
    split at hfound
    · rename_i huri
      cases huri
      cases hfound
      refine ⟨before, after, rfl, fun b hb hsame => ?_⟩
      simpa [hsame] using hbefore b hb
    · cases hfound
  · rintro ⟨before, after, rfl, hbefore⟩
    refine ⟨before, (some pfx, uri), after, rfl, if_pos rfl, fun b hb => ?_⟩
    split
    · exact hbefore b hb ‹_›
    · rfl

section Attributes

variable {scope : Scope} {a b : Attribute}

theorem Attribute.ConsistentIn.reread_expanded (h : a.ConsistentIn scope)
    (hscope : scope.Sound) : a.expanded.reread = a.expanded := by
  refine reread_eq ?_ h.isLocal.brace_not_mem
  intro uri huri
  rcases h.bound uri huri with rfl | ⟨-, b, hb, -, rfl⟩
  · decide
  · exact (hscope.declarable b hb).brace_not_mem

/-- An attribute with a namespace is seen with the prefix that its scope shows for it. -/
theorem Attribute.ConsistentIn.exists_shows (h : a.ConsistentIn scope) (hscope : scope.Sound)
    {uri : String} (huri : a.name.uri = some uri) :
    ∃ pfx, scope.Shows uri pfx ∧ pfx ≠ "xmlns" ∧ meaning? scope.find? (some pfx) = some uri ∧
      a.text scope = qualify pfx a.name.localName := by
  have hexpanded : a.expanded = ⟨some uri, a.name.localName⟩ := by
    rw [Attribute.expanded, QName.expanded, huri]
  rw [Attribute.text, h.reread_expanded hscope, hexpanded, ExpandedName.qualified]
  -- the prefix `xml` needs no binding; any other one is searched for
  by_cases hxml : uri = xmlNamespace
  · refine ⟨"xml", ⟨fun _ => rfl, fun hne => absurd hxml hne⟩, by decide, ?_, if_pos hxml⟩
    rw [meaning?, if_pos rfl, hxml]
  · obtain ⟨hne, b, hb, hpfx, rfl⟩ := (h.bound uri huri).resolve_left hxml
    obtain ⟨found, hfound, hxmlns, hmeaning⟩ := hscope.exists_prefixFor? hb hpfx hne
    refine ⟨found, ⟨fun heq => absurd heq hxml, fun _ => ?_⟩, hxmlns, hmeaning, ?_⟩
    · exact prefixFor?_eq_some_iff.1 hfound
    · dsimp only
      rw [if_neg hxml, hfound]

/-- An attribute without a namespace is seen under its local name. -/
theorem Attribute.ConsistentIn.text_of_no_uri (h : a.ConsistentIn scope) (hscope : scope.Sound)
    (huri : a.name.uri = none) : a.text scope = a.name.localName := by
  rw [Attribute.text, h.reread_expanded hscope, Attribute.expanded, QName.expanded, huri,
    ExpandedName.qualified]

/-- The name of an attribute as rules see it is its local name, or has a prefix that stands for its
namespace. -/
theorem Attribute.ConsistentIn.text_eq (h : a.ConsistentIn scope) (hscope : scope.Sound) :
    (a.name.uri = none ∧ a.text scope = a.name.localName ∧ a.name.localName ≠ "xmlns") ∨
      ∃ p uri, a.name.uri = some uri ∧ a.text scope = qualify p a.name.localName ∧ p ≠ "xmlns" ∧
        meaning? scope.find? (some p) = some uri := by
  cases huri : a.name.uri with
  | none => exact .inl ⟨rfl, h.text_of_no_uri hscope huri, h.unbound huri⟩
  | some uri =>
      obtain ⟨pfx, -, hxmlns, hmeaning, htext⟩ := h.exists_shows hscope huri
      exact .inr ⟨pfx, uri, rfl, htext, hxmlns, hmeaning⟩

/-- The name of an attribute as rules see it resolves to its expanded name. -/
theorem resolveAttribute?_text (h : a.ConsistentIn scope) (hscope : scope.Sound) :
    resolveAttribute? scope.find? (a.text scope) = some a.expanded := by
  rw [resolveAttribute?, Attribute.expanded, QName.expanded]
  rcases h.text_eq hscope with ⟨huri, htext, -⟩ | ⟨p, uri, huri, htext, -, hmeaning⟩
  · rw [htext, resolve?_local h.isLocal.colon_not_mem, huri]
  · rw [htext, resolve?_qualify (hscope.colon_not_mem hmeaning) hmeaning, huri]

/-- No attribute has the name of a declaration. -/
theorem text_ne_declarationName (h : a.ConsistentIn scope) (hscope : scope.Sound)
    (pfx : Option String) : a.text scope ≠ declarationName pfx := by
  rcases h.text_eq hscope with ⟨-, htext, hne⟩ | ⟨p, uri, -, htext, hne, hmeaning⟩
  · rw [htext]
    exact local_ne_declarationName h.isLocal.colon_not_mem hne pfx
  · rw [htext]
    exact qualify_ne_declarationName (hscope.colon_not_mem hmeaning) hne _ pfx

/-- Attributes that rules see under the same name have the same expanded name. -/
theorem expanded_eq_of_text_eq (ha : a.ConsistentIn scope) (hb : b.ConsistentIn scope)
    (hscope : scope.Sound) (h : a.text scope = b.text scope) : a.expanded = b.expanded := by
  have hresolve := resolveAttribute?_text ha hscope
  rw [h, resolveAttribute?_text hb hscope] at hresolve
  exact (Option.some.inj hresolve).symm

end Attributes

end DepthRules.Xml
