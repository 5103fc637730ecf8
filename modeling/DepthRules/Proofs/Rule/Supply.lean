import DepthRules.Proofs.Pass
import DepthRules.Proofs.Rule.Spelling

/-!
# Where declarations come from

`Supply` lists the ways of getting declarations: from a text, from a text with commas, from a file
with a rule to a line, from data, from a file of rulesets, and from settings. Whatever way it is,
every declaration is one that can be bound to a handler and shown (`Declaration.Supplied`), so that
binding all of them succeeds and makes an engine with just these rules (`Supply.bindAll_engine`).
-/

namespace DepthRules

open Rule

/-! ## The engine for declarations -/

namespace Pass

/-- The rules of an engine are written as the declarations they are made of, in the same order. -/
theorem texts_ofRules (declarations : List Declaration) :
    (Engine.ofRules (declarations.map Declaration.rule)).rules.map (fun r => r.1.text) =
      declarations.map Declaration.text := by
  have hfst : (Engine.ofRules (declarations.map Declaration.rule)).rules.map Prod.fst =
      declarations.map Declaration.rule := List.zipIdx_map_fst 0 _
  have htexts := congrArg (List.map Rule.text) hfst
  rw [List.map_map, List.map_map] at htexts
  exact htexts

/-- The deepest level of an engine is that of one of its rules. -/
theorem exists_depth_eq_maxDepth {declarations : List Declaration} (h : declarations ≠ []) :
    ∃ r ∈ (Engine.ofRules (declarations.map Declaration.rule)).rules,
      r.1.depth = (Engine.ofRules (declarations.map Declaration.rule)).maxDepth := by
  have hne : declarations.map Declaration.rule ≠ [] := fun hnil => h (List.map_eq_nil_iff.1 hnil)
  obtain ⟨rule, hrule, hdepth⟩ := Engine.exists_depth_eq_deepest hne
  -- the rule has a number in the engine
  rw [← List.zipIdx_map_fst 0 (declarations.map Declaration.rule)] at hrule
  obtain ⟨r, hr, rfl⟩ := List.mem_map.1 hrule
  exact ⟨r, hr, hdepth⟩

end Pass

/-- A declaration that can be bound and shown: it is valid and has a label, which is its own text
unless it was given by one of some rules of rulesets. -/
structure Declaration.Supplied (offered : Entry → Prop) (d : Declaration) : Prop
    extends d.Valid where
  label_ne_nil : d.label ≠ []
  label_eq : d.label = d.text ∨ ∃ e, offered e ∧ e.declaration = .ok d ∧ e.label = some d.label

namespace Rule

/-! ## Labels -/

theorem spelling_ne_nil (kind : Kind) (depth : Int) (tag : Option Str) :
    spelling kind depth tag ≠ [] := by
  cases tag with
  | none => simp [spelling]
  | some tag => simp [spelling]

theorem ensures_parse_supplied (offered : Entry → Prop) (s : Str) :
    Ensures (parse s) (Declaration.Supplied offered) := by
  intro d hd
  have hnormal := ensures_parse_normal s d hd
  refine ⟨hnormal.toValid, ?_, .inl hnormal.label_eq⟩
  rw [hnormal.label_eq]
  exact spelling_ne_nil _ _ _

/-- The label of a rule is not empty, and it is the text of the rule or the label given for it. -/
theorem Entry.labelText_cases (e : Entry) :
    e.labelText ≠ [] ∧
      (e.labelText = spelling e.kind e.depth e.tag ∨ e.label = some e.labelText) := by
  rw [Entry.labelText]
  cases e.label with
  | none => exact ⟨spelling_ne_nil _ _ _, .inl rfl⟩
  | some label =>
      dsimp only
      rw [Declaration.caption]
      by_cases hempty : label.isEmpty = true
      · rw [if_pos hempty]
        exact ⟨spelling_ne_nil _ _ _, .inl rfl⟩
      · rw [if_neg hempty]
        exact ⟨fun h => hempty (List.isEmpty_iff.2 h), .inr rfl⟩

theorem Entry.ensures_declaration_supplied {offered : Entry → Prop} {e : Entry} (he : offered e)
    (hdepth : 0 ≤ e.depth) : Ensures e.declaration (Declaration.Supplied offered) := by
  intro d hd
  have hvalid := Entry.ensures_declaration hdepth d hd
  obtain ⟨hlabel, hcases⟩ := e.labelText_cases
  obtain ⟨-, rfl⟩ := Entry.declaration_eq_ok_iff.1 hd
  exact ⟨hvalid, hlabel, hcases.imp_right fun hgiven => ⟨e, he, hd, hgiven⟩⟩

/-! ## Supplies -/

/-- A way of getting declarations: from a text, from a text with commas between rules, from a file
with a rule to a line, from a ruleset of data or of a file, or from settings. -/
inductive Supply where
  | text (s : Str)
  | list (s : Str)
  | lines (files : Files) (path : String)
  | data (value : Value) (ruleset : Str)
  | ruleset (files : Files) (path : String) (ruleset : Str)
  | settings (files : Files) (chosen : RulesSettings)

namespace Supply

/-- The declarations of a supply, unless they are refused. -/
def declarations : Supply → Option (List Declaration)
  | .text s => (parse s).toOption.map fun d => [d]
  | .list s => (parseList s).toOption
  | .lines files path => (readLines files path).toOption
  | .data value name =>
      (RulesFile.read value).toOption.bind fun file => (file.resolve name).toOption
  | .ruleset files path name => (readRuleset files path name).toOption
  | .settings files chosen => (load files chosen).outcome.1.toOption

/-- The rulesets that a supply takes declarations from, if there are any. -/
def rulesets? : Supply → Option RulesFile
  | .text _ => none
  | .list _ => none
  | .lines _ _ => none
  | .data value _ => (RulesFile.read value).toOption
  | .ruleset files path _ => (rulesetsAt files path).toOption
  | .settings files chosen => rulesetsNamed? files chosen

/-- The rule is one of the rulesets of the supply. -/
def Offers (supply : Supply) (e : Entry) : Prop :=
  ∃ file, supply.rulesets? = some file ∧ e ∈ file.entries

theorem depthsValid_of_rulesets? {supply : Supply} {file : RulesFile}
    (h : supply.rulesets? = some file) : file.DepthsValid := by
  cases supply with
  | text | list | lines => cases h
  | data value name => exact ensures_rulesFileRead value file (toOption_eq_some_iff.1 h)
  | ruleset files path name => exact ensures_rulesetsAt files path file (toOption_eq_some_iff.1 h)
  | settings files chosen => exact depthsValid_of_rulesetsNamed? h

/-- What texts and the rules of its rulesets ensure of their declarations, a supply does. -/
theorem ensures_declarations {P : Declaration → Prop} (htexts : ∀ s, Ensures (parse s) P)
    {supply : Supply} (hentries : ∀ e, supply.Offers e → Ensures e.declaration P)
    {ds : List Declaration} (h : supply.declarations = some ds) : ∀ d ∈ ds, P d := by
  have hfile : ∀ file, supply.rulesets? = some file → ∀ e ∈ file.entries,
      Ensures e.declaration P := fun file hfile e he => hentries e ⟨file, hfile, he⟩
  cases supply with
  | text s =>
      obtain ⟨d, hd, rfl⟩ := Option.map_eq_some_iff.1 h
      exact List.forall_mem_singleton.2 (htexts s d (toOption_eq_some_iff.1 hd))
  | list s => exact ensures_parsePieces htexts _ ds (toOption_eq_some_iff.1 h)
  | lines files path => exact ensures_readLines htexts files path ds (toOption_eq_some_iff.1 h)
  | data value name =>
      obtain ⟨file, hcheck, hresolve⟩ := Option.bind_eq_some_iff.1 h
      exact RulesFile.ensures_resolve (hfile file hcheck) name ds (toOption_eq_some_iff.1 hresolve)
  | ruleset files path name =>
      refine ensures_readRuleset ?_ name ds (toOption_eq_some_iff.1 h)
      intro file hread
      exact hfile file (toOption_eq_some_iff.2 hread)
  | settings files chosen =>
      have hloaded : loadedRules files chosen = .ok ds := by
        rw [← (load_gives files chosen).outcome]
        exact toOption_eq_some_iff.1 h
      exact ensures_loadedRules_of htexts hfile ds hloaded

theorem supplied_of_declarations {supply : Supply} {ds : List Declaration}
    (h : supply.declarations = some ds) : ∀ d ∈ ds, d.Supplied supply.Offers := by
  refine ensures_declarations (ensures_parse_supplied _) ?_ h
  rintro e ⟨file, hfile, he⟩
  have hdepth := RulesFile.depth_nonneg_of_mem_entries (depthsValid_of_rulesets? hfile) he
  exact Entry.ensures_declaration_supplied ⟨file, hfile, he⟩ hdepth

/-- Whatever way declarations are got, the depth of each of them is not negative, it has no tag just
if it is for comments, its tag and its label are not empty, and its label is its own text unless it
is the label that a rule of the rulesets is given. All of them can be bound to any handlers. This
makes an engine with their rules in their order, written as they are, whose deepest level is that of
one of them. -/
theorem bindAll_engine {supply : Supply} {ds : List Declaration}
    (h : supply.declarations = some ds) :
    (∀ d ∈ ds, 0 ≤ d.depth ∧ (d.tag = none ↔ d.kind = .comment) ∧ d.tag ≠ some "" ∧
      d.label ≠ "" ∧
      (d.label = d.text ∨ ∃ e, supply.Offers e ∧ e.declaration = .ok d ∧ e.label = some d.label)) ∧
    ∀ (η : Type) (handler : Declaration → η), ∃ bound,
      Pass.bindAll handler ds = .ok bound ∧ bound.map Prod.snd = ds.map handler ∧
      Pass.rulesOf ds = .ok (bound.map Prod.fst) ∧
      (Engine.ofRules (bound.map Prod.fst)).rules.map (fun r => r.1.text) =
        ds.map Declaration.text ∧
      0 ≤ (Engine.ofRules (bound.map Prod.fst)).maxDepth ∧
      (ds ≠ [] → ∃ r ∈ (Engine.ofRules (bound.map Prod.fst)).rules,
        r.1.depth = (Engine.ofRules (bound.map Prod.fst)).maxDepth) := by
  have hsupplied := supplied_of_declarations h
  have hvalid : ∀ d ∈ ds, d.Valid := fun d hd => (hsupplied d hd).toValid
  constructor
  · intro d hd
    have hd := hsupplied d hd
    exact ⟨hd.depth_nonneg, hd.tagFits.eq_none_iff, hd.tagFits.ne_empty, hd.label_ne_nil,
      hd.label_eq⟩
  · intro η handler
    have hbound := Pass.bindAll_of_valid handler hvalid
    have hrules : (ds.map fun d => (d.rule, handler d)).map Prod.fst = ds.map Declaration.rule := by
      rw [List.map_map]
      rfl
    obtain ⟨depth, hdepth, -⟩ := Pass.exists_greatestDepth hvalid
    refine ⟨_, hbound, ?_, ?_, ?_⟩
    · rw [List.map_map]
      rfl
    · -- the handlers are dropped where the rules alone are asked for
      rw [← Pass.map_bindAll handler ds, hbound]
      rfl
    · rw [hrules]
      refine ⟨Pass.texts_ofRules ds, ?_, Pass.exists_depth_eq_maxDepth⟩
      rw [Engine.ofRules, hdepth]
      exact Int.natCast_nonneg depth

/-- Two rulesets, the second of which extends the first: a rule with a label of its own, and one
whose label is left empty. -/
def labelledData : Value :=
  let mapping (fields : List (String × Value)) : Value :=
    .dict (fields.map fun f => (.str f.1, f.2))
  mapping [("rulesets", mapping [
    ("base", mapping [("rules", .list [
      mapping [("kind", .str "comment"), ("depth", .int 1), ("label", .str "note")]])]),
    ("default", mapping [("extends", .str "base"), ("rules", .list [
      mapping [("kind", .str "Element"), ("depth", .str "+2"), ("tag", .bool true),
        ("label", .str "")]])])])]

/-- What they declare. -/
def labelled : List Declaration :=
  [⟨.comment, 1, none, "note"⟩, ⟨.element, 2, some "True", "element:2:True"⟩]

/-- Both rules are declared, the first with the label that it is given, and bound to their
labels. -/
theorem bindAll_engine_labelled :
    (data labelledData "default").declarations = some labelled ∧
    (∃ e, (data labelledData "default").Offers e ∧ e.label = some "note") ∧
    ∃ bound, Pass.bindAll Declaration.label labelled = .ok bound ∧
      bound.map Prod.snd = ["note", "element:2:True"] ∧
      (Engine.ofRules (bound.map Prod.fst)).rules.map (fun r => r.1.text) =
        ["comment:1", "element:2:True"] := by
  have h : (data labelledData "default").declarations = some labelled := by cbv
  obtain ⟨hdeclared, hbind⟩ := bindAll_engine h
  obtain ⟨bound, hbound, hhandlers, -, htexts, -⟩ := hbind Str Declaration.label
  obtain ⟨-, -, -, -, hlabel⟩ := hdeclared ⟨.comment, 1, none, "note"⟩ List.mem_cons_self
  refine ⟨h, ?_, bound, hbound, hhandlers, htexts⟩
  rcases hlabel with htext | ⟨e, hoffers, -, hgiven⟩
  · exact absurd htext (by decide)
  · exact ⟨e, hoffers, hgiven⟩

end Supply

end Rule

end DepthRules
