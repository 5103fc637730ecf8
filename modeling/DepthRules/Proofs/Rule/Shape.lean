import DepthRules.Proofs.Rule.Breaking
import DepthRules.Proofs.Rule.Fields
import Mathlib

/-!
# The shape of a rules file

`FileShape`, `RulesetShape` and `EntryShape` say which values of JSON are rules files, rulesets and
rules, and which ones they are; `FileOffends`, `RulesetOffends` and `EntryOffends` at which places a
value is none. A value is read as a rules file exactly if it has this shape, and else one defect is
told for each place that offends and for no other place (`RulesFile.read_shape`), but where the kind
of a rule is a text with surrogates nothing is told but that it cannot be encoded.
-/

namespace DepthRules.Rule

open Text Check

/-- The step to the value of a field. -/
abbrev field (name : String) : Step := .value (.str name)

/-! ## Shapes -/

/-- What a field stands for that may be missing. -/
def FieldShape {α : Type} (v : Value) (name : String) (missing : α) (Fits : Value → α → Prop)
    (a : α) : Prop :=
  (∃ w, v.Has name w ∧ Fits w a) ∨ (∀ w, ¬ v.Has name w) ∧ a = missing

/-- A rule has a kind and a depth, and it may have a tag and a label. -/
structure EntryShape (v : Value) (e : Entry) : Prop where
  kind : ∃ w, v.Has "kind" w ∧ IsKind w e.kind
  depth : ∃ w, v.Has "depth" w ∧ IsDepth w e.depth
  tag : FieldShape v "tag" none IsLabel e.tag
  label : FieldShape v "label" none IsLabel e.label

/-- Rules are a list of them, or null, which is none. -/
inductive RulesShape : Value → List Entry → Prop
  | null : RulesShape .null []
  | list {items : List Value} {rules : List Entry} (h : List.Forall₂ EntryShape items rules) :
      RulesShape (.list items) rules

/-- A ruleset is a mapping that may have a base and rules, or null, which is the empty one. -/
inductive RulesetShape : Value → Ruleset → Prop
  | null : RulesetShape .null ⟨none, []⟩
  | dict {v : Value} {base : Option Str} {rules : List Entry} (hdict : v.IsDict)
      (hbase : FieldShape v "extends" none IsBase base)
      (hrules : FieldShape v "rules" [] RulesShape rules) : RulesetShape v ⟨base, rules⟩

/-- Rulesets are a mapping from their names to them. -/
inductive RulesetsShape : Value → Entries Str Ruleset → Prop
  | dict {entries : List (Value × Value)} {rulesets : Entries Str Ruleset}
      (h : List.Forall₂ (fun e named => e.1 = .str named.1 ∧ RulesetShape e.2 named.2) entries
        rulesets) : RulesetsShape (.dict entries) rulesets

/-- A rules file is a mapping with rulesets in it. -/
def FileShape (v : Value) (file : RulesFile) : Prop :=
  ∃ w, v.Has "rulesets" w ∧ RulesetsShape w file.rulesets

/-! ## Places that offend -/

/-- Where a value fails to be a rule. -/
inductive EntryOffends (v : Value) : List Step → Prop
  | type (hdict : ¬ v.IsDict) : EntryOffends v []
  | missing {name : String} (hname : name = "kind" ∨ name = "depth") (hdict : v.IsDict)
      (h : ∀ w, ¬ v.Has name w) : EntryOffends v [field name]
  | kind {w : Value} (hw : v.Has "kind" w) (h : ∀ kind, ¬ IsKind w kind) :
      EntryOffends v [field "kind"]
  | depth {w : Value} (hw : v.Has "depth" w) (h : ∀ depth, ¬ IsDepth w depth) :
      EntryOffends v [field "depth"]
  | text {name : String} {w : Value} (hname : name = "tag" ∨ name = "label") (hw : v.Has name w)
      (h : w.HoldsLong) : EntryOffends v [field name]

/-- Where a value fails to be the rules of a ruleset. -/
inductive RulesOffends (v : Value) : List Step → Prop
  | type (hnull : v ≠ .null) (hlist : ∀ items, v ≠ .list items) : RulesOffends v []
  | rule {items : List Value} {position : Nat} {item : Value} {place : List Step}
      (hv : v = .list items) (hitem : items[position]? = some item)
      (h : EntryOffends item place) : RulesOffends v (.item position :: place)

/-- Where a value fails to be a ruleset. -/
inductive RulesetOffends (v : Value) : List Step → Prop
  | type (hnull : v ≠ .null) (hdict : ¬ v.IsDict) : RulesetOffends v []
  | base {w : Value} (hw : v.Has "extends" w) (h : ∀ base, ¬ IsBase w base) :
      RulesetOffends v [field "extends"]
  | rules {w : Value} {place : List Step} (hw : v.Has "rules" w) (h : RulesOffends w place) :
      RulesetOffends v (field "rules" :: place)

/-- Where a value fails to be a mapping of rulesets: itself, or where a ruleset does. -/
inductive RulesetsOffends (v : Value) : List Step → Prop
  | type (hdict : ¬ v.IsDict) : RulesetsOffends v []
  | ruleset {entries : List (Value × Value)} {k w : Value} {place : List Step}
      (hv : v = .dict entries) (hentry : (k, w) ∈ entries) (h : RulesetOffends w place) :
      RulesetsOffends v (.value k :: place)

/-- Where a value fails to be a rules file. -/
inductive FileOffends (v : Value) : List Step → Prop
  | type (hdict : ¬ v.IsDict) : FileOffends v []
  | missing (hdict : v.IsDict) (h : ∀ w, ¬ v.Has "rulesets" w) : FileOffends v [field "rulesets"]
  | rulesets {w : Value} {place : List Step} (hw : v.Has "rulesets" w)
      (h : RulesetsOffends w place) : FileOffends v (field "rulesets" :: place)

/-! ## Rules -/

variable {v : Value}

/-- What is made of a checked value has its defects. -/
theorem bind_ok_eq_map {ε α β : Type} (x : Except ε α) (f : α → β) :
    (x >>= fun a => .ok (f a)) = x.map f := by
  cases x <;> rfl

theorem entryCheck_dict (entries : List (Value × Value)) :
    Entry.check (.dict entries) =
      (Checked.both (required entries "kind" checkKind) <|
        Checked.both (required entries "depth" checkDepth) <|
          Checked.both (optional entries "tag" none checkScalar)
            (optional entries "label" none checkScalar)).map
        fun parts => ⟨parts.1, parts.2.1, parts.2.2.1, parts.2.2.2⟩ :=
  bind_ok_eq_map _ _

theorem fieldsOf_of_not_dict (h : v.IsJson) (hdict : ¬ v.IsDict) (kind : String) :
    fieldsOf kind v = refuse ("Input should be a valid dictionary or instance of " ++ kind) := by
  rw [fieldsOf, h.content_eq]
  split
  · exact absurd (Value.isDict_dict _) hdict
  · rfl

theorem entryCheck_of_not_dict (h : v.IsJson) (hdict : ¬ v.IsDict) :
    Entry.check v =
      refuse ("Input should be a valid dictionary or instance of " ++ "RuleEntry") := by
  rw [Entry.check, fieldsOf_of_not_dict h hdict]
  rfl

theorem field_ne {a b : String} (h : a ≠ b) {rest rest' : List Step} :
    field a :: rest ≠ field b :: rest' := by
  intro heq
  exact h (Str.ofString_inj.1 (Value.str.inj (Step.value.inj (List.cons.inj heq).1)))

/-- A mapping is refused as a rule where its fields are. -/
theorem reports_entryCheck_dict {entries : List (Value × Value)}
    (h : (Value.dict entries).IsJson) :
    Reports (Entry.check (.dict entries)) (EntryShape (.dict entries))
      (EntryOffends (.dict entries)) := by
  obtain ⟨-, hdistinct, hvalues⟩ := h.of_dict
  have hkind := reports_required hdistinct "kind" fun w hw => reports_checkKind (hvalues _ hw)
  have hdepth := reports_required hdistinct "depth" fun w hw => reports_checkDepth (hvalues _ hw)
  have htag := reports_optional hdistinct "tag" none fun w hw => reports_checkScalar (hvalues _ hw)
  have hlabel := reports_optional hdistinct "label" none fun w hw =>
    reports_checkScalar (hvalues _ hw)
  have htexts := htag.both hlabel <| by
    rintro place ⟨rest, rfl, -⟩ ⟨rest', heq, -⟩
    exact field_ne (by decide) heq
  have hrest := hdepth.both htexts <| by
    rintro place ⟨rest, rfl, -⟩ (⟨rest', heq, -⟩ | ⟨rest', heq, -⟩)
    all_goals exact field_ne (by decide) heq
  have hall := hkind.both hrest <| by
    rintro place ⟨rest, rfl, -⟩ (⟨rest', heq, -⟩ | ⟨rest', heq, -⟩ | ⟨rest', heq, -⟩)
    all_goals exact field_ne (by decide) heq
  rw [entryCheck_dict]
  refine (hall.map _).congr (fun e => ?_) fun place => ?_
  · constructor
    · rintro ⟨hkind, hdepth, htag, hlabel⟩
      exact ⟨(e.kind, e.depth, e.tag, e.label), ⟨hkind, hdepth, htag, hlabel⟩, rfl⟩
    · rintro ⟨parts, ⟨hkind, hdepth, htag, hlabel⟩, rfl⟩
      exact ⟨hkind, hdepth, htag, hlabel⟩
  · constructor
    · rintro (hno | ⟨rfl | rfl, -, hnone⟩ | ⟨hw, hnot⟩ | ⟨hw, hnot⟩ | ⟨rfl | rfl, hw, hnot⟩)
      · exact absurd (Value.isDict_dict entries) hno
      · exact .inl ⟨[], rfl, .inr ⟨hnone, rfl⟩⟩
      · exact .inr (.inl ⟨[], rfl, .inr ⟨hnone, rfl⟩⟩)
      · exact .inl ⟨[], rfl, .inl ⟨_, hw, rfl, hnot⟩⟩
      · exact .inr (.inl ⟨[], rfl, .inl ⟨_, hw, rfl, hnot⟩⟩)
      · exact .inr (.inr (.inl ⟨[], rfl, _, hw, rfl, hnot⟩))
      · exact .inr (.inr (.inr ⟨[], rfl, _, hw, rfl, hnot⟩))
    · rintro (⟨rest, rfl, ⟨w, hw, rfl, hnot⟩ | ⟨hnone, rfl⟩⟩ |
        ⟨rest, rfl, ⟨w, hw, rfl, hnot⟩ | ⟨hnone, rfl⟩⟩ | ⟨rest, rfl, w, hw, rfl, hnot⟩ |
        ⟨rest, rfl, w, hw, rfl, hnot⟩)
      · exact .kind hw hnot
      · exact .missing (.inl rfl) (Value.isDict_dict entries) hnone
      · exact .depth hw hnot
      · exact .missing (.inr rfl) (Value.isDict_dict entries) hnone
      · exact .text (.inl rfl) hw hnot
      · exact .text (.inr rfl) hw hnot

/-- A rule is refused where its fields are, and as a whole if it is no mapping. -/
theorem reports_entryCheck (h : v.IsJson) :
    Reports (Entry.check v) (EntryShape v) (EntryOffends v) := by
  by_cases hdict : v.IsDict
  · obtain ⟨entries, rfl⟩ := hdict
    exact reports_entryCheck_dict h
  · rw [entryCheck_of_not_dict h hdict]
    refine .refuse _ (fun e he => ?_) fun place => ?_
    · obtain ⟨w, hw, -⟩ := he.kind
      exact hdict hw.isDict
    · constructor
      · rintro (_ | ⟨-, hno, -⟩ | ⟨hw, -⟩ | ⟨hw, -⟩ | ⟨-, hw, -⟩)
        · rfl
        · exact absurd hno hdict
        all_goals exact absurd hw.isDict hdict
      · rintro rfl
        exact .type hdict

/-! ## Rulesets -/

theorem reports_checkRules (h : v.IsJson) :
    Reports (checkRules v) (RulesShape v) (RulesOffends v) := by
  have hrefused (message : Str) (hnull : v ≠ .null) (hlist : ∀ items, v ≠ .list items) :
      Reports (refuse message) (RulesShape v) (RulesOffends v) := by
    refine .refuse message (fun rules hrules => ?_) fun place => ⟨?_, ?_⟩
    · cases hrules
      · exact hnull rfl
      · exact hlist _ rfl
    · rintro (_ | ⟨hv, -, -⟩)
      · rfl
      · exact absurd hv (hlist _)
    · rintro rfl
      exact .type hnull hlist
  cases h with
  | null =>
      refine ⟨fun rules => ⟨?_, ?_⟩, fun place => ?_⟩
      · rintro ⟨⟩
        rfl
      · rintro rfl
        exact .null
      · rintro (⟨hnull, -⟩ | ⟨hv, -, -⟩)
        · exact hnull rfl
        · cases hv
  | @list items h =>
      have hitems := reports_items fun item hitem => reports_entryCheck (h item hitem)
      have hcheck : checkRules (.list items) = Checked.all (itemsFrom Entry.check 0 items) := rfl
      rw [hcheck]
      refine hitems.congr (fun rules => ⟨fun | .list h => h, .list⟩) fun place => ⟨?_, ?_⟩
      · rintro (⟨-, hlist⟩ | ⟨hv, hitem, hplace⟩)
        · exact absurd rfl (hlist items)
        · cases hv
          exact ⟨_, _, _, hitem, rfl, hplace⟩
      · rintro ⟨position, item, rest, hitem, rfl, hplace⟩
        exact .rule rfl hitem hplace
  | bool | int | real | str | dict => exact hrefused _ (by rintro ⟨⟩) (by rintro _ ⟨⟩)

theorem rulesetCheck_dict (entries : List (Value × Value)) :
    Ruleset.check (.dict entries) =
      (Checked.both (optional entries "extends" none textOrNull)
        (optional entries "rules" [] checkRules)).map fun parts => ⟨parts.1, parts.2⟩ :=
  bind_ok_eq_map _ _

theorem rulesetCheck_of_not_dict (h : v.IsJson) (hnull : v ≠ .null) (hdict : ¬ v.IsDict) :
    Ruleset.check v =
      refuse ("Input should be a valid dictionary or instance of " ++ "Ruleset") := by
  rw [Ruleset.check, h.content_eq]
  split
  · exact absurd rfl hnull
  · rw [fieldsOf_of_not_dict h hdict]
    rfl

/-- A ruleset is refused where its base and its rules are, and as a whole if it is no mapping. -/
theorem reports_rulesetCheck (h : v.IsJson) :
    Reports (Ruleset.check v) (RulesetShape v) (RulesetOffends v) := by
  by_cases hnull : v = .null
  · subst hnull
    have hdict : ¬ Value.null.IsDict := by rintro ⟨entries, ⟨⟩⟩
    refine ⟨fun ruleset => ⟨?_, ?_⟩, fun place => ?_⟩
    · rintro (_ | ⟨hno, -, -⟩)
      · rfl
      · exact absurd hno hdict
    · rintro rfl
      exact .null
    · rintro (⟨hno, -⟩ | ⟨hw, -⟩ | ⟨hw, -⟩)
      · exact hno rfl
      all_goals exact hdict hw.isDict
  by_cases hdict : v.IsDict
  · obtain ⟨entries, rfl⟩ := hdict
    obtain ⟨-, hdistinct, hvalues⟩ := h.of_dict
    have hbase := reports_optional hdistinct "extends" none fun w hw =>
      reports_textOrNull (hvalues _ hw)
    have hrules := reports_optional hdistinct "rules" [] fun w hw =>
      reports_checkRules (hvalues _ hw)
    have hboth := hbase.both hrules <| by
      rintro place ⟨rest, rfl, -⟩ ⟨rest', heq, -⟩
      exact field_ne (by decide) heq
    rw [rulesetCheck_dict]
    refine (hboth.map _).congr (fun ruleset => ?_) fun place => ?_
    · constructor
      · rintro (_ | ⟨-, hbase, hrules⟩)
        exact ⟨(_, _), ⟨hbase, hrules⟩, rfl⟩
      · rintro ⟨parts, ⟨hbase, hrules⟩, rfl⟩
        exact .dict (Value.isDict_dict entries) hbase hrules
    · constructor
      · rintro (⟨-, hno⟩ | ⟨hw, hnot⟩ | ⟨hw, hplace⟩)
        · exact absurd (Value.isDict_dict entries) hno
        · exact .inl ⟨[], rfl, _, hw, rfl, hnot⟩
        · exact .inr ⟨_, rfl, _, hw, hplace⟩
      · rintro (⟨rest, rfl, w, hw, rfl, hnot⟩ | ⟨rest, rfl, w, hw, hplace⟩)
        · exact .base hw hnot
        · exact .rules hw hplace
  · rw [rulesetCheck_of_not_dict h hnull hdict]
    refine .refuse _ (fun ruleset hruleset => ?_) fun place => ?_
    · cases hruleset with
      | null => exact hnull rfl
      | dict hno => exact hdict hno
    · constructor
      · rintro (_ | ⟨hw, -⟩ | ⟨hw, -⟩)
        · rfl
        all_goals exact absurd hw.isDict hdict
      · rintro rfl
        exact .type hnull hdict

/-! ## Files -/

theorem mapping_of_not_dict {α : Type} (check : Value → Checked α) (h : v.IsJson)
    (hdict : ¬ v.IsDict) : mapping check v = refuse "Input should be a valid dictionary" := by
  rw [mapping, h.content_eq]
  split
  · exact absurd (Value.isDict_dict _) hdict
  · rfl

theorem reports_rulesets (h : v.IsJson) :
    Reports (mapping Ruleset.check v) (RulesetsShape v) (RulesetsOffends v) := by
  by_cases hdict : v.IsDict
  · obtain ⟨entries, rfl⟩ := hdict
    obtain ⟨hkeys, hdistinct, hvalues⟩ := h.of_dict
    have hmapping := reports_mapping hkeys hdistinct fun e he =>
      reports_rulesetCheck (hvalues e he)
    refine hmapping.congr (fun rulesets => ⟨fun | .dict h => h, .dict⟩) fun place => ⟨?_, ?_⟩
    · rintro (hno | ⟨hv, hentry, hplace⟩)
      · exact absurd (Value.isDict_dict entries) hno
      · cases hv
        exact ⟨_, hentry, _, rfl, hplace⟩
    · rintro ⟨⟨k, w⟩, hentry, rest, rfl, hplace⟩
      exact .ruleset rfl hentry hplace
  · rw [mapping_of_not_dict _ h hdict]
    refine .refuse _ (fun rulesets hrulesets => ?_) fun place => ⟨?_, ?_⟩
    · cases hrulesets
      exact hdict (Value.isDict_dict _)
    · rintro (_ | ⟨hv, -, -⟩)
      · rfl
      · exact absurd ⟨_, hv⟩ hdict
    · rintro rfl
      exact .type hdict

theorem fileCheck_dict (entries : List (Value × Value)) :
    RulesFile.check (.dict entries) =
      (required entries "rulesets" (mapping Ruleset.check)).map RulesFile.mk :=
  bind_ok_eq_map _ _

theorem fileCheck_of_not_dict (h : v.IsJson) (hdict : ¬ v.IsDict) :
    RulesFile.check v =
      refuse ("Input should be a valid dictionary or instance of " ++ "RulesFile") := by
  rw [RulesFile.check, fieldsOf_of_not_dict h hdict]
  rfl

/-- A file is refused where its rulesets are, and as a whole if it is no mapping. -/
theorem reports_fileCheck (h : v.IsJson) :
    Reports (RulesFile.check v) (FileShape v) (FileOffends v) := by
  by_cases hdict : v.IsDict
  · obtain ⟨entries, rfl⟩ := hdict
    obtain ⟨-, hdistinct, hvalues⟩ := h.of_dict
    have hrulesets := reports_required hdistinct "rulesets" fun w hw =>
      reports_rulesets (hvalues _ hw)
    rw [fileCheck_dict]
    refine (hrulesets.map _).congr (fun file => ?_) fun place => ⟨?_, ?_⟩
    · constructor
      · exact fun hfile => ⟨file.rulesets, hfile, rfl⟩
      · rintro ⟨rulesets, hfile, rfl⟩
        exact hfile
    · rintro (hno | ⟨-, hnone⟩ | ⟨hw, hplace⟩)
      · exact absurd (Value.isDict_dict entries) hno
      · exact ⟨[], rfl, .inr ⟨hnone, rfl⟩⟩
      · exact ⟨_, rfl, .inl ⟨_, hw, hplace⟩⟩
    · rintro ⟨rest, rfl, ⟨w, hw, hplace⟩ | ⟨hnone, rfl⟩⟩
      · exact .rulesets hw hplace
      · exact .missing (Value.isDict_dict entries) hnone
  · rw [fileCheck_of_not_dict h hdict]
    refine .refuse _ (fun file hfile => ?_) fun place => ⟨?_, ?_⟩
    · obtain ⟨w, hw, -⟩ := hfile
      exact hdict hw.isDict
    · rintro (_ | ⟨hno, -⟩ | ⟨hw, -⟩)
      · rfl
      · exact absurd hno hdict
      · exact absurd hw.isDict hdict
    · rintro rfl
      exact .type hdict

/-! ## Reading a file -/

/-- How a place and what is said of it are put together. -/
def mention (place : List Step) (message : Str) : Str :=
  let shown := ".".intercalate (place.map Step.shown)
  if shown.isEmpty then message else shown ++ ": " ++ message

theorem map_describe {defects : List Defect} {places : List (List Step)}
    (h : defects.map Defect.place = places.map (List.map Step.shown)) :
    defects.map Defect.describe = List.zipWith mention places (defects.map Defect.message) := by
  induction defects generalizing places with
  | nil => cases places <;> rfl
  | cons d defects ih =>
      cases places with
      | nil => cases h
      | cons place places =>
          obtain ⟨hplace, hrest⟩ := List.cons.inj h
          have hdescribe : d.describe = mention place d.message := by
            rw [Defect.describe, mention, hplace]
          rw [List.map_cons, List.map_cons, List.zipWith_cons_cons, ih hrest, hdescribe]

/-- A value of JSON is read as a rules file exactly if it has the shape of one, and as the file of
which it has the shape. It is refused exactly if some place of it offends: with an error in encoding
if the kind of a rule is a text with surrogates, and else with its defects. Then there is one defect
for each place that offends and none besides, and the wording of the refusal says something of each
of these places and of no other. -/
theorem RulesFile.read_shape {data : Value} (h : data.IsJson) :
    (∀ file, RulesFile.read data = .ok file ↔ FileShape data file) ∧
    ((∃ refusal, RulesFile.read data = .error refusal) ↔ ∃ place, FileOffends data place) ∧
    ((∃ cause, RulesFile.read data = .error (.encoding cause)) ↔ FileBreaks data) ∧
    ∀ defects, RulesFile.read data = .error (.defects defects) →
      ∃ places : List (List Step), places.Nodup ∧
        (∀ place, place ∈ places ↔ FileOffends data place) ∧
        defects.map Defect.place = places.map (List.map Step.shown) ∧
        Defect.describeAll defects =
          ("; " : Str).intercalate (List.zipWith mention places (defects.map Defect.message)) := by
  have hreports := reports_fileCheck h
  refine ⟨fun file => ?_, ?_, ?_, fun defects hdefects => ?_⟩
  · rw [RulesFile.read, Checked.told_eq_ok_iff]
    exact hreports.ok_iff file
  · rw [← hreports.exists_error_iff]
    exact Checked.exists_told_error_iff
  · rw [← breaks_fileCheck_iff]
    exact Checked.told_eq_encoding_iff
  · -- defects that are told are all that the check finds
    rw [RulesFile.read, Checked.told_eq_defects_iff] at hdefects
    rw [hdefects.1] at hreports
    obtain ⟨-, places, -, hnodup, hplaces, hshown⟩ := hreports
    refine ⟨places, hnodup, hplaces, hshown, ?_⟩
    rw [Defect.describeAll, map_describe hshown]

/-- A rule with a tag. -/
def taggedRule (kind depth tag : Value) : Value :=
  .dict [(.str "kind", kind), (.str "depth", depth), (.str "tag", tag)]

/-- A file with one ruleset of one rule. -/
def oneRule (kind depth tag : Value) : Value :=
  .dict [(.str "rulesets", .dict [(.str "r", .dict [(.str "rules",
    .list [taggedRule kind depth tag])])])]

section OneRule

variable {kind depth tag : Value}

theorem isJson_oneRule (hkind : kind.IsJson) (hdepth : depth.IsJson) (htag : tag.IsJson) :
    (oneRule kind depth tag).IsJson := by
  have hrule : (taggedRule kind depth tag).IsJson :=
    .dict (by simp [Value.IsText]) (by simp) (by simp [hkind, hdepth, htag])
  have hrules : (Value.list [taggedRule kind depth tag]).IsJson := .list (by simp [hrule])
  have hruleset : (Value.dict [(.str "rules", .list [taggedRule kind depth tag])]).IsJson :=
    .dict (by simp [Value.IsText]) (by simp) (by simp [hrules])
  have hrulesets : (Value.dict [(.str "r", .dict [(.str "rules",
      .list [taggedRule kind depth tag])])]).IsJson :=
    .dict (by simp [Value.IsText]) (by simp) (by simp [hruleset])
  exact .dict (by simp [Value.IsText]) (by simp) (by simp [hrulesets])

theorem fileOffends_oneRule {place : List Step}
    (h : EntryOffends (taggedRule kind depth tag) place) :
    FileOffends (oneRule kind depth tag)
      (field "rulesets" :: field "r" :: field "rules" :: .item 0 :: place) := by
  refine .rulesets (Value.has_dict_iff.2 List.mem_cons_self) ?_
  refine .ruleset rfl List.mem_cons_self ?_
  refine .rules (Value.has_dict_iff.2 List.mem_cons_self) ?_
  exact .rule rfl rfl h

theorem fileBreaks_oneRule_iff :
    FileBreaks (oneRule kind depth tag) ↔ ∃ s, kind = .str s ∧ ¬ s.IsChars := by
  have hkind : (taggedRule kind depth tag).field? "kind" = some kind := rfl
  constructor
  · rintro ⟨_, ⟨⟩, _, ⟨⟩, named, hnamed, hbreaks⟩
    rw [List.mem_singleton.1 hnamed] at hbreaks
    obtain ⟨_, ⟨⟩, _, ⟨⟩, rule, hrule, s, hs, hsurrogate⟩ := hbreaks
    rw [List.mem_singleton.1 hrule, hkind] at hs
    exact ⟨s, Option.some_inj.1 hs, hsurrogate⟩
  · rintro ⟨s, rfl, hs⟩
    exact ⟨_, rfl, _, rfl, _, List.mem_singleton_self _, _, rfl, _, rfl, _,
      List.mem_singleton_self _, s, hkind, hs⟩

end OneRule

/-- A file whose only rule has a truth value for its depth is refused there, and not for the
surrogate in its tag. -/
theorem RulesFile.read_shape_oneRule :
    (oneRule (.str "Element") (.bool true) (.str [0xD800])).IsJson ∧
    ∃ defects, RulesFile.read (oneRule (.str "Element") (.bool true) (.str [0xD800])) =
        .error (.defects defects) ∧
      ["rulesets", "r", "rules", "0", "depth"] ∈ defects.map Defect.place := by
  have hjson := isJson_oneRule (.str "Element") (.bool true) (.str [0xD800])
  have hplace : FileOffends (oneRule (.str "Element") (.bool true) (.str [0xD800]))
      [field "rulesets", field "r", field "rules", .item 0, field "depth"] := by
    refine fileOffends_oneRule (.depth (w := .bool true) ?_ ?_)
    · exact Value.has_dict_iff.2 (List.mem_cons_of_mem _ List.mem_cons_self)
    · rintro depth ⟨⟩
  obtain ⟨-, hrefused, hencoding, hdefects⟩ := RulesFile.read_shape hjson
  obtain ⟨refusal, hrefusal⟩ := hrefused.2 ⟨_, hplace⟩
  refine ⟨hjson, ?_⟩
  cases refusal with
  | encoding cause =>
      obtain ⟨s, hs, hsurrogate⟩ := fileBreaks_oneRule_iff.1 (hencoding.1 ⟨cause, hrefusal⟩)
      cases hs
      exact absurd (Str.isChars_ofString _) hsurrogate
  | defects defects =>
      obtain ⟨places, -, hplaces, hshown, -⟩ := hdefects defects hrefusal
      refine ⟨defects, hrefusal, ?_⟩
      rw [hshown]
      exact List.mem_map.2 ⟨_, (hplaces _).2 hplace, by cbv⟩

theorem long_natAbs : 10 ^ maxDigits ≤ ((10 : Int) ^ maxDigits).natAbs := by
  have hten : (10 : Int).natAbs = 10 := rfl
  rw [Int.natAbs_pow, hten]

/-- An integer of more digits than are written is refused as a depth and as a tag, and a kind with a
surrogate gives an error in encoding and no defects. -/
theorem RulesFile.read_refuses :
    ((oneRule (.str "Element") (.int (10 ^ maxDigits)) .null).IsJson ∧
      ∃ refusal, RulesFile.read (oneRule (.str "Element") (.int (10 ^ maxDigits)) .null) =
        .error refusal) ∧
    ((oneRule (.str "Element") (.int 0) (.int (10 ^ maxDigits))).IsJson ∧
      ∃ refusal, RulesFile.read (oneRule (.str "Element") (.int 0) (.int (10 ^ maxDigits))) =
        .error refusal) ∧
    (oneRule (.str [0xD800]) (.int 0) .null).IsJson ∧
      RulesFile.read (oneRule (.str [0xD800]) (.int 0) .null) =
      .error (.encoding ⟨14, 15, 0xD800⟩) := by
  have hdepth : EntryOffends (taggedRule (.str "Element") (.int (10 ^ maxDigits)) .null)
      [field "depth"] := by
    refine .depth (Value.has_dict_iff.2 (List.mem_cons_of_mem _ List.mem_cons_self)) ?_
    rintro depth ⟨-, hshort⟩
    exact absurd long_natAbs (Nat.not_le.2 hshort)
  have htag : EntryOffends (taggedRule (.str "Element") (.int 0) (.int (10 ^ maxDigits)))
      [field "tag"] := .text (.inl rfl) (Value.has_dict_iff.2 (by simp)) (.int long_natAbs)
  have hlongDepth := isJson_oneRule (.str "Element") (.int (10 ^ maxDigits)) .null
  have hlongTag := isJson_oneRule (.str "Element") (.int 0) (.int (10 ^ maxDigits))
  refine ⟨⟨hlongDepth, ?_⟩, ⟨hlongTag, ?_⟩, isJson_oneRule (.str _) (.int 0) .null, by cbv⟩
  · rw [RulesFile.read, Checked.exists_told_error_iff]
    exact (reports_fileCheck hlongDepth).exists_error_iff.2 ⟨_, fileOffends_oneRule hdepth⟩
  · rw [RulesFile.read, Checked.exists_told_error_iff]
    exact (reports_fileCheck hlongTag).exists_error_iff.2 ⟨_, fileOffends_oneRule htag⟩

end DepthRules.Rule
