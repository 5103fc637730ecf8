import DepthRules.Proofs.Xml.Declarations

/-!
# Prefixes that rules see on attributes

The expanded name of an attribute does not tell its prefix, which is searched for in the scope: what
rules see is the first prefix that is bound to the namespace (`Scope.Shows`). So an attribute is
seen under its name as written if it has no prefix, or if its prefix is the first of those for the
namespace, above all if it is the only one (`attributes_seen`). One that is written with another
prefix is seen under another name (`aliased_prefix_not_seen`).
-/

namespace DepthRules.Xml

/-- A name as it is written, with its prefix. -/
def QName.written (name : QName) : String :=
  match name.pfx with
  | none => name.localName
  | some pfx => qualify pfx name.localName

/-! ## The prefix that is written and the one that is seen -/

theorem qualify_left_inj {pfx other localName : String} :
    qualify pfx localName = qualify other localName ↔ pfx = other := by
  rw [qualify, qualify, String.append_left_inj, String.append_left_inj]

namespace QName.BoundIn

variable {scope : Scope} {name : QName}

theorem uri_eq_none (h : name.BoundIn scope) (hpfx : name.pfx = none) : name.uri = none := by
  cases h with
  | unprefixed => rfl
  | xml => cases hpfx
  | bound => cases hpfx

/-- The prefix of a bound name stands for its namespace. -/
theorem exists_meaning (h : name.BoundIn scope) (hfilled : scope.Filled) {pfx : String}
    (hpfx : name.pfx = some pfx) :
    ∃ uri, name.uri = some uri ∧ meaning? scope.find? (some pfx) = some uri := by
  cases h with
  | unprefixed => cases hpfx
  | xml localName =>
      cases hpfx
      exact ⟨xmlNamespace, rfl, if_pos rfl⟩
  | @bound localName p uri hxml hfind =>
      cases hpfx
      have hne : uri ≠ "" := hfilled _ (Scope.mem_of_find? hfind) (by simp)
      refine ⟨uri, rfl, ?_⟩
      rw [meaning?, if_neg fun heq => hxml (Option.some.inj heq), hfind]
      simpa using hne

end QName.BoundIn

/-! ## Attributes of an element -/

/-- How rules see an attribute of an element of a document that is read. It is seen with its value:
under its name as written if that has no prefix, and otherwise with the prefix that the scope shows
for its namespace. That is the name as written exactly if the written prefix is the one shown, which
it is if no other prefix stands for the namespace. -/
theorem attributes_seen {options : Options} {bytes : List UInt8} {d : Document}
    (hread : Document.read options bytes = .ok d) (hvalid : d.NamespaceValid) {e : Element}
    {above : List Element} (h : d.Path (e :: above)) {a : Attribute}
    (ha : a ∈ e.tag.attributes) :
    let nodes := nodesOn (e :: above)
    let node := e.item.toNode (scopeAt above)
    let scope := scopeAt (e :: above)
    d.toNode.Path nodes ∧ nodes.head? = some node ∧
      node.attributes.get? (a.text scope) = some a.value ∧
      (a.name.pfx = none → a.text scope = a.name.written) ∧
      ∀ pfx, a.name.pfx = some pfx → ∃ uri shown,
        meaning? scope.find? (some pfx) = some uri ∧
        meaning? scope.find? (some shown) = some uri ∧ scope.Shows uri shown ∧
        a.text scope = qualify shown a.name.localName ∧
        (a.text scope = a.name.written ↔ shown = pfx) ∧
        ((∀ other, meaning? scope.find? (some other) = some uri → other = pfx) →
          a.text scope = a.name.written) := by
  intro nodes node scope
  have hbound := bound_of_read hread
  obtain ⟨houter, hfilled, htag⟩ := h.soundIn hbound hvalid
  have hscope : scope.Sound := houter.extend htag
  have hinside : scope.Filled := hfilled.extend (h.namespaceValid hvalid)
  have hname : a.name.BoundIn scope := ((h.boundIn hbound).tag.attributes a ha).name
  have hconsistent : a.ConsistentIn scope := htag.attributes a ha
  have hvalue : e.tag.valueOf a = a.value := by
    refine valueOf_of_distinct fun b hb heq => ?_
    exact (h.namespaceValid hvalid).distinct b hb a ha heq
  refine ⟨h.nodesOn_path, rfl, ?_, fun hpfx => ?_, fun pfx hpfx => ?_⟩
  · rw [← hvalue]
    exact get?_entries_text houter htag ha
  · rw [hconsistent.text_of_no_uri hscope (hname.uri_eq_none hpfx), QName.written, hpfx]
  · obtain ⟨uri, huri, hmeaning⟩ := hname.exists_meaning hinside hpfx
    obtain ⟨shown, hshows, -, hshown, htext⟩ := hconsistent.exists_shows hscope huri
    have hwritten : a.text scope = a.name.written ↔ shown = pfx := by
      rw [htext, QName.written, hpfx]
      exact qualify_left_inj
    exact ⟨uri, shown, hmeaning, hshown, hshows, htext, hwritten, fun honly =>
      hwritten.2 (honly shown hshown)⟩

/-! ## A document with two prefixes for a namespace -/

/-- The bytes of a document in which an inner element declares another prefix for a namespace that
has one already. -/
def aliasedBytes : List UInt8 :=
  ("<a xmlns:p='urn:1' xmlns:q='urn:2'>" ++
    "<b xmlns:r='urn:2' p:k='1' q:k='2' xml:k='3' k='4'/></a>").toUTF8.data.toList

/-- The attribute with the prefix that is not shown. -/
def aliasedAttribute : Attribute := ⟨⟨some "q", "k", some "urn:2"⟩, "2"⟩

/-- The inner element of that document. -/
def aliasingElement : Element :=
  ⟨⟨⟨none, "b", none⟩, [(some "r", "urn:2")],
    [⟨⟨some "p", "k", some "urn:1"⟩, "1"⟩, aliasedAttribute,
      ⟨⟨some "xml", "k", some xmlNamespace⟩, "3"⟩, ⟨⟨none, "k", none⟩, "4"⟩]⟩, []⟩

/-- Its outer element. -/
def aliasedElement : Element :=
  ⟨⟨⟨none, "a", none⟩, [(some "p", "urn:1"), (some "q", "urn:2")], []⟩, [aliasingElement.item]⟩

/-- That document. -/
def aliased : Document := ⟨aliasedElement.tag, aliasedElement.content⟩

theorem read_aliased : Document.read ⟨false, false, false⟩ aliasedBytes = .ok aliased := by
  decide +kernel

/-- In that document the attribute with the shown prefix is seen as it is written, and the aliased
one with the prefix that is declared further in. -/
theorem attributes_seen_aliased :
    Document.read ⟨false, false, false⟩ aliasedBytes = .ok aliased ∧ aliased.NamespaceValid ∧
      aliased.Path [aliasingElement, aliasedElement] ∧
      aliasedAttribute ∈ aliasingElement.tag.attributes ∧ aliasedAttribute.name.written = "q:k" ∧
      (aliasingElement.item.toNode (scopeAt [aliasedElement])).attributes.keys =
        ["xmlns:r", "p:k", "r:k", "xml:k", "k"] ∧
      (aliasingElement.item.toNode (scopeAt [aliasedElement])).attributes.get?
        (aliasedAttribute.text (scopeAt [aliasingElement, aliasedElement])) = some "2" ∧
      ∃ uri shown, Scope.Shows (scopeAt [aliasingElement, aliasedElement]) uri shown ∧
        aliasedAttribute.text (scopeAt [aliasingElement, aliasedElement]) = qualify shown "k" ∧
        shown ≠ "q" := by
  have hvalid : aliased.NamespaceValid := by decide
  have hpath : aliased.Path [aliasingElement, aliasedElement] := .child .root List.mem_cons_self
  have hmem : aliasedAttribute ∈ aliasingElement.tag.attributes := by decide
  obtain ⟨-, -, hvalue, -, hprefixed⟩ := attributes_seen read_aliased hvalid hpath hmem
  obtain ⟨uri, shown, -, -, hshows, htext, hwritten, -⟩ := hprefixed "q" rfl
  have hother : shown ≠ "q" := fun heq => absurd (hwritten.2 heq) (by decide)
  exact ⟨read_aliased, hvalid, hpath, hmem, by decide, by decide, hvalue, uri, shown, hshows, htext,
    hother⟩

/-- Not every attribute is seen under its name as written: one with another prefix than the shown
one is not, and not even its key is there. -/
theorem aliased_prefix_not_seen :
    ¬ ∀ (options : Options) (bytes : List UInt8) (d : Document) (e : Element)
      (above : List Element) (a : Attribute), Document.read options bytes = .ok d →
      d.NamespaceValid → d.Path (e :: above) → a ∈ e.tag.attributes →
        (e.item.toNode (scopeAt above)).attributes.get? a.name.written = some a.value := by
  intro hall
  have hvalid : aliased.NamespaceValid := by decide
  have hpath : aliased.Path [aliasingElement, aliasedElement] := .child .root List.mem_cons_self
  have hmem : aliasedAttribute ∈ aliasingElement.tag.attributes := by decide
  have hseen := hall _ _ _ _ _ _ read_aliased hvalid hpath hmem
  exact absurd hseen (by decide)

end DepthRules.Xml
