import DepthRules.Proofs.Xml.Bound
import DepthRules.Proofs.Xml.Entities
import DepthRules.Proofs.Xml.Meaning
import DepthRules.Xml.StartTag
import Mathlib.Data.List.TakeDrop
import Mathlib.Data.List.TakeWhile

/-!
# Start tags declare what they use

A start tag is refused if a prefix is declared on it twice, and the prefix of an attribute is looked
up among the declarations on the tag and those around it. So the tag that is read in a scope is
bound in it (`startTag_yields`), whatever the document type adds by default.
-/

namespace DepthRules.Xml

open Token (Written)

/-! ## Characters of names -/

/-- There is no opening brace in the name. -/
def Token.Written.IsPlain (w : Written) : Prop := '\x7b' ∉ w.text.toList

namespace Token

/-- A reader gives characters among which there is no opening brace. -/
abbrev ReadsPlain (t : Token (List Char)) : Prop :=
  Yields (fun _ => True) t fun name => '\x7b' ∉ name

theorem takeWhile_plain {p : Char → Bool} (h : p '\x7b' = false) : ReadsPlain (takeWhile p) := by
  unfold takeWhile
  refine .ofState fun text _ => ?_
  rw [List.span_eq_takeWhile_dropWhile]
  refine Keeps.bind (.set trivial) fun _ => .pure fun hmem => ?_
  exact absurd (List.mem_takeWhile_imp hmem) (by simp [h])

theorem withinLimit_keeps (limits : Limits) (name : List Char) :
    Keeps (fun _ => True) (withinLimit limits name) := by
  unfold withinLimit
  exact .ite (.throw _) (.pure trivial)

theorem simpleName_plain (limits : Limits) : ReadsPlain (simpleName limits) := by
  unfold simpleName
  refine .ofState fun text _ => ?_
  split
  · refine .ite ?_ (.pure List.not_mem_nil)
    refine (takeWhile_plain (by decide)).bind fun name hname => ?_
    exact (withinLimit_keeps limits name).bind fun _ => .pure hname
  · exact .pure List.not_mem_nil

theorem rawName_plain (limits : Limits) : ReadsPlain (rawName limits) := by
  unfold rawName
  refine (takeWhile_plain (by decide)).bind fun name hname => ?_
  refine (withinLimit_keeps limits name).bind fun _ => ?_
  refine Keeps.bind (fun _ _ => .ok ⟨trivial, trivial⟩) fun lineEnd => .ite ?_ (.pure hname)
  refine Keeps.bind (.modify fun _ _ => trivial) fun _ => .pure ?_
  simpa using hname

theorem qualifiedName_yields (limits : Limits) :
    Yields (fun _ => True) (qualifiedName limits) fun found => ∀ w ∈ found, w.IsPlain := by
  unfold qualifiedName
  have hpeek : Keeps (fun _ => True) peek? := fun _ _ => .ok ⟨trivial, trivial⟩
  have hplain {w : Written} (h : w.IsPlain) : ∀ found ∈ some w, found.IsPlain := by
    rintro _ ⟨⟩
    exact h
  refine .ofState fun start _ => (simpleName_plain limits).bind fun first hfirst => ?_
  have hmalformed : Yields (fun _ => True) (do
      set start
      let name ← rawName limits
      return some (⟨none, String.ofList name, false⟩ : Written))
      fun found => ∀ w ∈ found, w.IsPlain := by
    refine Keeps.bind (.set trivial) fun _ => (rawName_plain limits).bind fun name hname => ?_
    exact .pure (hplain (by simpa [Written.IsPlain, Written.text] using hname))
  refine .ite ?_ ?_
  · exact hpeek.bind fun next => .ite hmalformed (.pure fun w hw => nomatch hw)
  · refine hpeek.bind fun next => .ite ?_ ?_
    · refine Keeps.bind (.modify fun _ _ => trivial) fun _ => ?_
      refine (simpleName_plain limits).bind fun second hsecond => hpeek.bind fun next => ?_
      refine .ite hmalformed (.pure (hplain ?_))
      rw [Written.IsPlain, Written.text, toList_qualify]
      simpa using ⟨hfirst, hsecond⟩
    · exact .pure (hplain (by simpa [Written.IsPlain, Written.text] using hfirst))

end Token

/-- A name declares no namespace if it is not `xmlns` and does not have it as its prefix. -/
theorem isDeclaration_split_eq_false_iff {w : Written} : Scan.isDeclaration w.split = false ↔
    (w.pfx = none → w.localName ≠ "xmlns") ∧ w.pfx ≠ some "xmlns" := by
  rw [Scan.isDeclaration, Token.Written.split, Bool.or_eq_false_iff, decide_eq_false_iff_not,
    decide_eq_false_iff_not, Prod.mk.injEq, not_and]

/-! ## Tags that are being read -/

/-- A tag that is read declares a prefix once, and `xml` not at all, and the names of its other
attributes are plain and not those of declarations. -/
structure StartTag.Sound (tag : StartTag) : Prop where
  declared_once : (tag.declarations.map Prod.fst).Nodup
  ne_xml : ∀ b ∈ tag.declarations, b.1 ≠ some "xml"
  attributes : ∀ a ∈ tag.attributes, a.name.IsPlain ∧ Scan.isDeclaration a.name.split = false

theorem StartTag.sound_empty : StartTag.Sound ⟨[], [], none⟩ where
  declared_once := List.nodup_nil
  ne_xml := fun _ hb => absurd hb List.not_mem_nil
  attributes := fun _ ha => absurd ha List.not_mem_nil

/-- A prefix that is not declared yet can be. -/
theorem StartTag.Sound.declare {tag : StartTag} (h : tag.Sound) {pfx : Option String}
    (hxml : pfx ≠ some "xml") (hnew : ¬ (tag.declarations.any fun d => d.1 = pfx) = true)
    (uri : String) :
    StartTag.Sound { tag with declarations := (pfx, uri) :: tag.declarations } where
  declared_once := by
    rw [List.map_cons, List.nodup_cons]
    refine ⟨fun hmem => hnew ?_, h.declared_once⟩
    obtain ⟨d, hd, hpfx⟩ := List.mem_map.1 hmem
    exact List.any_eq_true.2 ⟨d, hd, decide_eq_true hpfx⟩
  ne_xml := by
    intro b hb
    rcases List.mem_cons.1 hb with rfl | hb
    · exact hxml
    · exact h.ne_xml b hb
  attributes := h.attributes

/-- A name that declares no namespace can be that of an attribute. -/
theorem StartTag.Sound.add {tag : StartTag} (h : tag.Sound) {a : WrittenAttribute}
    (hplain : a.name.IsPlain) (hother : Scan.isDeclaration a.name.split = false)
    (space : Option SpaceMode) : StartTag.Sound ⟨tag.declarations, a :: tag.attributes, space⟩ where
  declared_once := h.declared_once
  ne_xml := h.ne_xml
  attributes := List.forall_mem_cons.2 ⟨⟨hplain, hother⟩, h.attributes⟩

namespace Scan

variable {P : List Item → Prop} {tag : StartTag}

theorem declare_yields (h : tag.Sound) {pfx : Option String} (hxml : pfx ≠ some "xml")
    (uri : String) : Yields (State.Cached P) (declare tag pfx uri) StartTag.Sound := by
  unfold declare
  by_cases hdeclared : (tag.declarations.any fun d => d.1 = pfx) = true
  · rw [if_pos hdeclared]
    exact fail_bind_yields _ _
  · rw [if_neg hdeclared]
    exact .pure (h.declare hxml hdeclared uri)

theorem declareDefault_yields (h : tag.Sound) (uri : String) :
    Yields (State.Cached P) (declareDefault tag uri) StartTag.Sound := by
  unfold declareDefault
  have hrest : Yields (State.Cached P) (do
      if uri = xmlNamespace || uri = declarationNamespace then
        noteError
        return tag
      else declare tag none uri) StartTag.Sound :=
    .ite (noteError_keeps.bind fun _ => .pure h) (declare_yields h (by simp) uri)
  refine .ite hrest ?_
  split
  · exact noteError_keeps.bind fun _ => hrest
  · exact warn_keeps.bind fun _ => hrest
  · exact hrest

theorem declarePrefix_yields (h : tag.Sound) (pfx uri : String) :
    Yields (State.Cached P) (declarePrefix tag pfx uri) StartTag.Sound := by
  unfold declarePrefix
  by_cases hxml : pfx = "xml"
  · rw [if_pos hxml]
    exact .afterIf noteError_keeps (.pure h)
  · rw [if_neg hxml]
    refine .ite (noteError_keeps.bind fun _ => .pure h) (.afterIf noteError_keeps ?_)
    exact declare_yields h (fun heq => hxml (Option.some.inj heq)) uri

theorem qualifiedName_yields (fault : Malformed) :
    Yields (State.Cached P) (qualifiedName fault) Written.IsPlain := by
  unfold qualifiedName
  refine limits_keeps.bind fun limits => ?_
  refine (token_yields (Token.qualifiedName_yields limits)).bind fun found hfound => ?_
  cases found with
  | none => exact fail_yields _
  | some name =>
      have hplain : name.IsPlain := hfound name rfl
      exact .afterUnless noteError_keeps (.pure hplain)

theorem atTagEnd_keeps : Keeps (State.Cached P) atTagEnd := by
  unfold atTagEnd
  refine .ofState fun s hs => ?_
  split
  · exact .pure trivial
  · exact .pure trivial
  · exact .pure trivial

theorem kindOf_keeps (owner name : SplitName) : Keeps (State.Cached P) (kindOf owner name) := by
  unfold kindOf
  refine .ofState fun s hs => ?_
  split
  · exact .pure trivial
  · exact .pure trivial

section Attributes

variable (htext : ∀ run, P [.text run])

include htext

theorem addAttribute_yields (h : tag.Sound) {name : Written} (hplain : name.IsPlain)
    (tokenized : Bool) :
    Yields (State.Cached P) (addAttribute tag name tokenized) StartTag.Sound := by
  unfold addAttribute
  refine .ofState fun s hs => (valueParts_keeps _ tokenized).bind fun parts => ?_
  refine (finishedValue_keeps htext parts).bind fun value => ?_
  dsimp only
  split
  · exact declareDefault_yields h _
  · exact declarePrefix_yields h _ _
  · rename_i hprefix hdefault
    -- what declares no namespace is an attribute
    have hother : isDeclaration name.split = false :=
      isDeclaration_split_eq_false_iff.2 ⟨hdefault, hprefix⟩
    refine .ite ?_ (.pure (h.add hplain hother _))
    split
    · exact .pure (h.add hplain hother _)
    · exact warn_keeps.bind fun _ => .pure (h.add hplain hother _)

theorem attributes_yields (owner : Written) (fuel : Nat) (h : tag.Sound) :
    Yields (State.Cached P) (attributes owner fuel tag) StartTag.Sound := by
  induction fuel generalizing tag with
  | zero => exact .pure h
  | succ fuel ih =>
      rw [attributes]
      refine atTagEnd_keeps.bind fun last => .ite (.pure h) ?_
      refine (qualifiedName_yields _).bind fun name hplain => (token_keeps _).bind fun _ => ?_
      refine (token_keeps _).bind fun _ => (token_keeps _).bind fun _ => ?_
      refine (kindOf_keeps _ _).bind fun kind => ?_
      refine (addAttribute_yields htext h hplain _).bind fun next hnext => ?_
      refine atTagEnd_keeps.bind fun last => .ite (.pure hnext) ?_
      exact (token_keeps _).bind fun _ => ih hnext

end Attributes

theorem defaults_keeps (owner : Written) : Keeps (State.Cached P) (defaults owner) := by
  unfold defaults
  exact .ofState fun s hs => .pure trivial

theorem defaultDeclarations_yields (missing : List (SplitName × String)) (h : tag.Sound) :
    Yields (State.Cached P) (defaultDeclarations tag missing) StartTag.Sound := by
  induction missing generalizing tag with
  | nil => exact .pure h
  | cons first rest ih =>
      obtain ⟨name, uri⟩ := first
      rw [defaultDeclarations]
      refine .ite ((charge_keeps _).bind fun _ => ?_) (ih h)
      dsimp only
      generalize (if name.1.isSome then some name.2 else none) = pfx
      split
      · exact ih h
      · rename_i hnew
        rw [Bool.or_eq_true, not_or, decide_eq_true_iff] at hnew
        exact ih (h.declare hnew.1 hnew.2 uri)

/-! ## Names with their namespaces -/

/-- The name of an attribute is bound in the scope in which it is looked up. -/
theorem attributeName_yields (scope : Scope) (name : Written) :
    Yields (State.Cached P) (attributeName scope name) fun found =>
      name.IsPlain → isDeclaration name.split = false →
        ∀ value, Attribute.BoundIn scope ⟨found, value⟩ := by
  have hlocal (hplain : name.IsPlain) : '\x7b' ∉ name.localName.toList := by
    intro hmem
    refine hplain ?_
    rw [Token.Written.text]
    split
    · exact hmem
    · rw [toList_qualify]
      exact List.mem_append_right _ (List.mem_cons_of_mem _ hmem)
  unfold attributeName
  split
  · rename_i hpfx
    refine .pure fun hplain hother value => ⟨.unprefixed _, hlocal hplain, fun _ => ?_⟩
    exact (isDeclaration_split_eq_false_iff.1 hother).1 hpfx
  · refine .pure fun hplain _ value => ⟨.xml _, hlocal hplain, fun hnone => ?_⟩
    exact absurd hnone (Option.some_ne_none _)
  · rename_i pfx hxml hpfx
    split
    · rename_i uri hfind
      refine .pure fun hplain _ value => ⟨.bound _ hxml hfind, hlocal hplain, fun hnone => ?_⟩
      exact absurd hnone (Option.some_ne_none _)
    · -- the colon stays in the name
      have hne : name.text ≠ "xmlns" := by
        intro hxmlns
        have hcolon : ':' ∈ name.text.toList := by
          rw [Token.Written.text, hpfx, toList_qualify]
          exact List.mem_append_right _ List.mem_cons_self
        rw [hxmlns] at hcolon
        exact absurd hcolon (by decide)
      refine noteError_keeps.bind fun _ => .pure fun hplain _ value => ?_
      exact ⟨.unprefixed _, hplain, fun _ => hne⟩

theorem elementName_keeps (scope : Scope) (name : Written) :
    Keeps (State.Cached P) (elementName scope name) := by
  unfold elementName
  split
  · exact .pure trivial
  · exact .pure trivial
  · split
    · exact .pure trivial
    · exact noteError_keeps.bind fun _ => .pure trivial

theorem checkNames_keeps (names : List (QName × Written)) :
    Keeps (State.Cached P) (checkNames names) := by
  induction names with
  | nil => exact .pure trivial
  | cons a rest ih => exact .afterIf (fail_yields _) (.afterIf noteError_keeps ih)

theorem checkDefaults_keeps (scope : Scope) (present : List (QName × Written))
    (missing : List (SplitName × String)) :
    Keeps (State.Cached P) (checkDefaults scope present missing) := by
  induction missing generalizing present with
  | nil => exact .pure trivial
  | cons first rest ih =>
      obtain ⟨name, value⟩ := first
      rw [checkDefaults]
      refine .ite (ih _) ((attributeName_yields _ _).bind fun meant _ => ?_)
      split
      · refine .ite (ih _) (noteError_keeps.bind fun _ => ?_)
        exact (charge_keeps _).bind fun _ => ih _
      · exact (charge_keeps _).bind fun _ => ih _

theorem register_keeps (identifier : String) : Keeps (State.Cached P) (register identifier) := by
  unfold register
  refine .afterIf (fail_yields _) (.ofState fun s hs => .afterIf noteError_keeps ?_)
  exact .modify fun _ ht => ht

theorem checkIdentifier_keeps (owner : SplitName) (a : Attribute) (refers : Bool) :
    Keeps (State.Cached P) (checkIdentifier owner a refers) := by
  unfold checkIdentifier
  refine .ofState fun s hs => .ite (.pure trivial) (.ite ?_ ?_)
  · exact .afterUnless noteError_keeps (register_keeps _)
  · exact (kindOf_keeps _ _).bind fun kind => .ite (register_keeps _) (.pure trivial)

/-! ## Start tags -/

/-- The tag that is read in a scope is bound in it, and the scope inside is that of its
declarations. -/
theorem startTag_yields (htext : ∀ run, P [.text run]) (fuel : Nat) (outer : Scope) :
    Yields (State.Cached P) (startTag fuel outer) fun r =>
      r.1.BoundIn outer ∧ r.2.2.1 = r.1.declarations ++ outer := by
  unfold startTag
  refine (qualifiedName_yields _).bind fun name _ => (token_keeps _).bind fun _ => ?_
  refine (attributes_yields htext name fuel StartTag.sound_empty).bind fun read hread => ?_
  refine (defaults_keeps name).bind fun missing => ?_
  refine (defaultDeclarations_yields missing hread).bind fun full hfull => ?_
  dsimp only
  have hnames : ∀ a ∈ full.attributes.reverse, Yields (State.Cached P)
      (attributeName (full.declarations.reverse ++ outer) a.name) fun found =>
        ∀ value, Attribute.BoundIn (full.declarations.reverse ++ outer) ⟨found, value⟩ := by
    intro a ha
    obtain ⟨hplain, hother⟩ := hfull.attributes a (List.mem_reverse.1 ha)
    exact (attributeName_yields _ a.name).mono fun found hfound => hfound hplain hother
  refine (Yields.mapM hnames).bind fun names hbound => (checkNames_keeps _).bind fun _ => ?_
  refine (checkDefaults_keeps _ _ _).bind fun _ => (elementName_keeps _ _).bind fun qualified => ?_
  refine Keeps.bind (.forM (fun a => checkIdentifier_keeps _ _ _) _) fun _ => .pure ⟨?_, rfl⟩
  refine ⟨?_, fun b hb => hfull.ne_xml b (List.mem_reverse.1 hb), fun a ha => ?_⟩
  · rw [List.map_reverse]
    exact List.nodup_reverse.2 hfull.declared_once
  · -- an attribute has one of the names that were looked up
    obtain ⟨_, hpaired, rfl⟩ := List.mem_map.1 ha
    obtain ⟨pair, hpair, rfl⟩ := List.mem_map.1 hpaired
    have hname := hbound pair.1 (List.of_mem_zip hpair).1 pair.2.value
    exact hname.mono (Scope.within_of_find?_eq (Scope.find?_append _ outer))

end Scan

end DepthRules.Xml
