import DepthRules.Proofs.Rule.Spelling

/-!
# Rules of rulesets and texts of rules

A rule of a ruleset whose kind, depth and tag are given by texts spells a declaration in the same
way as the parts of a rule's text do, but for the blanks around the kind and the tag: a text is rid
of them, the fields of a ruleset are taken as they are. Where there are none the two ways of writing
a rule agree (`declares_trimmed_iff_parse`).
-/

namespace DepthRules.Rule

open Text Check

/-- The fields of a rule of a ruleset that is given by texts and has no label. -/
def ruleFields (kind depth : Str) (tag : Option Str) : Value :=
  .dict ((.str "kind", .str kind) :: (.str "depth", .str depth) ::
    (tag.map fun tag => (.str "tag", .str tag)).toList)

/-- A value is accepted as a rule of a ruleset, and as the given declaration. -/
def Declares (v : Value) (d : Declaration) : Prop :=
  ∃ e, Entry.check v = .ok e ∧ e.declaration = .ok d

/-! ## Fields that are texts -/

theorem checkKind_of_none {v : Value} (h : v.plain? = none) :
    checkKind v = refuseValue Value.tooManyDigits := by
  rw [checkKind, checkPlain, h]
  rfl

theorem checkKind_of_some {v : Value} {s : Str} (h : v.plain? = some s) :
    checkKind v = match readKind s with
      | .ok kind => .ok kind
      | .error cause => refuseValue cause.message := by
  rw [checkKind, checkPlain, h]
  rfl

theorem checkKind_str_eq_ok_iff {word : Str} {kind : Kind} :
    checkKind (.str word) = .ok kind ↔ readKind word = .ok kind := by
  have hplain : (Value.str word).plain? = some word := rfl
  rw [checkKind_of_some hplain]
  cases readKind word with
  | error cause => simp [refuseValue, refuse]
  | ok found => simp

theorem checkDepth_str_eq_ok_iff {text : Str} {depth : Int} :
    checkDepth (.str text) = .ok depth ↔ integer? text = some depth ∧ 0 ≤ depth := by
  have hwritten : (Value.str text).written? = some (quotedCodes text) := by
    rw [Value.written?, Value.writtenIn?]
  have hliteral : depthLiteral? (Value.str text).content = integer? text := integer?_trim text
  have haccept : acceptDepth (String.ofList (quotedCodes text)) (integer? text) = .ok depth ↔
      integer? text = some depth ∧ 0 ≤ depth := acceptDepth_eq_ok_iff
  rw [checkDepth, hwritten, hliteral, ← haccept]
  dsimp only
  split
  · rename_i found hfound
    simp [hfound]
  · rename_i cause hcause
    simp [hcause, refuseValue, refuse]

theorem checkScalar_str (text : Str) : checkScalar (.str text) = .ok (some text) := rfl

/-- The fields are looked up by their names, and each is checked on its own. -/
theorem entryCheck_ruleFields (kind depth : Str) (tag : Option Str) :
    Entry.check (ruleFields kind depth tag) =
      (Checked.both (Checked.within "kind" (checkKind (.str kind))) <|
        Checked.both (Checked.within "depth" (checkDepth (.str depth))) (.ok (tag, none))) >>=
          fun parts => .ok ⟨parts.1, parts.2.1, parts.2.2.1, parts.2.2.2⟩ := by
  cases tag with
  | none => rfl
  | some tag =>
      have htag : Checked.within "tag" (checkScalar (.str tag)) = .ok (some tag) := by
        rw [checkScalar_str, Checked.within]
      have hlookup : Entry.check (ruleFields kind depth (some tag)) =
          (Checked.both (Checked.within "kind" (checkKind (.str kind))) <|
            Checked.both (Checked.within "depth" (checkDepth (.str depth))) <|
              Checked.both (Checked.within "tag" (checkScalar (.str tag))) (.ok none)) >>=
            fun parts => .ok ⟨parts.1, parts.2.1, parts.2.2.1, parts.2.2.2⟩ := rfl
      rw [hlookup, htag]
      rfl

theorem entryCheck_ruleFields_eq_ok_iff {kind depth : Str} {tag : Option Str} {e : Entry} :
    Entry.check (ruleFields kind depth tag) = .ok e ↔
      readKind kind = .ok e.kind ∧ (integer? depth = some e.depth ∧ 0 ≤ e.depth) ∧
        e.tag = tag ∧ e.label = none := by
  rw [entryCheck_ruleFields, bind_eq_ok_iff, ← checkKind_str_eq_ok_iff,
    ← checkDepth_str_eq_ok_iff]
  constructor
  · rintro ⟨⟨kind', depth', tag', label'⟩, hparts, he⟩
    cases he
    simp only [Checked.both_eq_ok_iff, Checked.within_eq_ok_iff] at hparts
    obtain ⟨hkind, hdepth, hrest⟩ := hparts
    cases hrest
    exact ⟨hkind, hdepth, rfl, rfl⟩
  · rintro ⟨hkind, hdepth, htag, hlabel⟩
    refine ⟨(e.kind, e.depth, e.tag, e.label), ?_, rfl⟩
    rw [htag, hlabel]
    simp only [Checked.both_eq_ok_iff, Checked.within_eq_ok_iff]
    exact ⟨hkind, hdepth, trivial⟩

/-- Fields that are texts declare what they spell as they stand. -/
theorem declares_ruleFields_iff {kind depth : Str} {tag : Option Str} {d : Declaration} :
    Declares (ruleFields kind depth tag) d ↔ Spells kind depth tag d := by
  constructor
  · rintro ⟨e, hcheck, hdeclaration⟩
    obtain ⟨hkind, ⟨hliteral, hnonneg⟩, htag, hlabel⟩ := entryCheck_ruleFields_eq_ok_iff.1 hcheck
    obtain ⟨hfits, rfl⟩ := Entry.declaration_eq_ok_iff.1 hdeclaration
    refine ⟨hkind, hliteral, hnonneg, htag, hfits, ?_⟩
    rw [Entry.declared, Entry.labelText, hlabel, Declaration.text]
  · intro h
    refine ⟨⟨d.kind, d.depth, tag, none⟩, entryCheck_ruleFields_eq_ok_iff.2
      ⟨h.readKind_eq, ⟨h.depth_eq, h.depth_nonneg⟩, rfl, rfl⟩, ?_⟩
    have htag : d.tag = tag := h.tag_eq
    have hlabel : d.label = spelling d.kind d.depth d.tag := h.label_eq
    refine Entry.declaration_eq_ok_iff.2 ⟨by rw [Entry.Fits, ← htag]; exact h.tagFits, ?_⟩
    rw [Entry.declared, Entry.labelText, ← htag, ← hlabel]

/-! ## The two ways of writing a rule -/

theorem parse_eq_ok_iff_of_two {kind depth : Str} (hkind : ':'.toNat ∉ kind)
    (hdepth : ':'.toNat ∉ depth) {d : Declaration} :
    parse (kind ++ ":" ++ depth) = .ok d ↔ Spells (trim kind) depth none d := by
  rw [parse_of_two hkind hdepth, assemble_eq_ok_iff, Option.map_none]

theorem parse_eq_ok_iff_of_three {kind depth : Str} (hkind : ':'.toNat ∉ kind)
    (hdepth : ':'.toNat ∉ depth) {tag : Str} {d : Declaration} :
    parse (kind ++ ":" ++ depth ++ ":" ++ tag) = .ok d ↔
      Spells (trim kind) depth (some (trim tag)) d := by
  rw [parse_of_three hkind hdepth, assemble_eq_ok_iff, Option.map_some]

/-- The label that a rule gets by default is read as the same rule exactly if its tag is trimmed. -/
theorem parse_label_eq_ok_iff {kind depth : Str} {tag : Option Str} {d : Declaration}
    (h : Declares (ruleFields kind depth tag) d) :
    parse d.label = .ok d ↔ tag.map trim = tag := by
  have hspells := declares_ruleFields_iff.1 h
  rw [hspells.label_eq, parse_text_eq_ok_iff, hspells.normal_iff]

/-- Without blanks around kind and tag, the fields of a rule are accepted exactly if its text is,
and as the same declaration. Its label is then read as the same rule; for any fields that are
accepted this holds exactly if their tag has no blanks around it. -/
theorem declares_trimmed_iff_parse {kind depth : Str} (hkind : ':'.toNat ∉ kind)
    (hdepth : ':'.toNat ∉ depth) (d : Declaration) :
    (∀ tag, Declares (ruleFields (trim kind) depth (some (trim tag))) d ↔
      parse (kind ++ ":" ++ depth ++ ":" ++ tag) = .ok d) ∧
    (Declares (ruleFields (trim kind) depth none) d ↔
      parse (kind ++ ":" ++ depth) = .ok d) ∧
    ∀ tag, Declares (ruleFields kind depth tag) d →
      (parse d.label = .ok d ↔ tag.map trim = tag) := by
  refine ⟨?_, ?_, ?_⟩
  · intro tag
    rw [declares_ruleFields_iff, parse_eq_ok_iff_of_three hkind hdepth]
  · rw [declares_ruleFields_iff, parse_eq_ok_iff_of_two hkind hdepth]
  · intro tag h
    exact parse_label_eq_ok_iff h

/-- A text is rid of the blanks around its kind and its tag, fields are not. With a blank before the
kind they are refused; with one before the tag they declare another rule than the text does, and the
label of that rule is read as the rule of the text. -/
theorem declares_padded :
    (parse (" element" ++ ":" ++ "0" ++ ":" ++ "a") =
        .ok ⟨.element, 0, some "a", "element:0:a"⟩ ∧
      ∀ d, ¬ Declares (ruleFields " element" "0" (some "a")) d) ∧
    Declares (ruleFields "element" "0" (some " a")) ⟨.element, 0, some " a", "element:0: a"⟩ ∧
    parse ("element" ++ ":" ++ "0" ++ ":" ++ " a") =
      .ok ⟨.element, 0, some "a", "element:0:a"⟩ := by
  refine ⟨⟨rfl, ?_⟩, ?_, rfl⟩
  · intro d h
    have hkind : readKind " element" = .ok d.kind :=
      (declares_ruleFields_iff.1 h).readKind_eq
    cases hkind
  · exact declares_ruleFields_iff.2 ⟨rfl, rfl, by decide, rfl, by decide, rfl⟩

/-- A rule in both ways, with a mark between the digits of its depth and a colon in its tag. -/
theorem declares_trimmed_iff_parse_content :
    ':'.toNat ∉ ("Content" : Str) ∧ ':'.toNat ∉ ("\t+0_7" : Str) ∧
      Declares (ruleFields "Content" "\t+0_7" (some "a:b"))
        ⟨.content, 7, some "a:b", "content:7:a:b"⟩ ∧
      parse "content:7:a:b" = .ok ⟨.content, 7, some "a:b", "content:7:a:b"⟩ := by
  have hkind : ':'.toNat ∉ ("Content" : Str) := by decide
  have hdepth : ':'.toNat ∉ ("\t+0_7" : Str) := by decide
  obtain ⟨hthree, -, hlabel⟩ := declares_trimmed_iff_parse hkind hdepth
    ⟨.content, 7, some "a:b", "content:7:a:b"⟩
  have hdeclares : Declares (ruleFields "Content" "\t+0_7" (some "a:b")) _ :=
    (hthree " a:b ").2 rfl
  exact ⟨hkind, hdepth, hdeclares, (hlabel (some "a:b") hdeclares).2 rfl⟩

end DepthRules.Rule
