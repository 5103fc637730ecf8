import DepthRules.Proofs.Check.Ensures
import DepthRules.Settings.Check
import Mathlib.Data.List.Nodup

/-!
# What the environment says

A field of settings has the value that the environment gives to its name, after the common start of
the names of its group (`Environment.lookup?_valuesOf`). Where the environment says nothing of the
rules as a whole, the rules file and the ruleset are those that it names, or the standard ones
(`Settings.rules_of_build`).
-/

namespace DepthRules

open Check

/-! ## Fields -/

namespace Environment

/-- The value that a field takes from an environment, if it takes one. -/
def valueOf (environment : Environment) (start : String) (field : SettingsField) : Option Value :=
  (List.lookup (lowerName (start ++ field.name)) environment).bind fun text =>
    (field.valueOf text).toOption.join

variable {environment : Environment} {start : String} {fields : List SettingsField}
  {values : List (Value × Value)}

/-- The first field adds an entry if it takes a value. -/
theorem exists_of_valuesOf_cons {field : SettingsField}
    (h : environment.valuesOf start (field :: fields) = .ok values) :
    ∃ later, environment.valuesOf start fields = .ok later ∧ values =
      (environment.valueOf start field).toList.map (Prod.mk (.str ↑field.name)) ++ later := by
  rw [valuesOf] at h
  rw [valueOf]
  cases hlookup : List.lookup (lowerName (start ++ field.name)) environment with
  | none =>
      rw [hlookup] at h
      obtain ⟨value, hnone, h⟩ := bind_eq_ok_iff.1 h
      obtain ⟨later, hlater, h⟩ := bind_eq_ok_iff.1 h
      cases hnone
      exact ⟨later, hlater, (Except.ok.inj h).symm⟩
  | some text =>
      rw [Option.bind_some]
      cases hvalue : field.valueOf text with
      | error cause =>
          simp only [hlookup, hvalue] at h
          cases h
      | ok value =>
          simp only [hlookup, hvalue] at h
          obtain ⟨value', hsame, h⟩ := bind_eq_ok_iff.1 h
          obtain ⟨later, hlater, h⟩ := bind_eq_ok_iff.1 h
          cases hsame
          refine ⟨later, hlater, ?_⟩
          rw [← Except.ok.inj h]
          cases value <;> rfl

theorem lookup?_entry (key : String) (found : Option Value) (rest : List (Value × Value))
    (name : String) :
    Value.lookup? (found.toList.map (Prod.mk (.str ↑key)) ++ rest) name =
      if key = name then found.or (Value.lookup? rest name) else Value.lookup? rest name := by
  cases found with
  | none => simp
  | some v => by_cases h : key = name <;> simp [Value.lookup?, h]

theorem lookup?_valuesOf_of_not_mem (h : environment.valuesOf start fields = .ok values)
    {name : String} (hname : name ∉ fields.map SettingsField.name) :
    Value.lookup? values name = none := by
  induction fields generalizing values with
  | nil =>
      rw [valuesOf] at h
      rw [← Except.ok.inj h]
      rfl
  | cons field rest ih =>
      obtain ⟨later, hlater, rfl⟩ := exists_of_valuesOf_cons h
      rw [List.map_cons, List.mem_cons, not_or] at hname
      rw [lookup?_entry, if_neg (Ne.symm hname.1), ih hlater hname.2]

/-- A field is found with the value that it takes from the environment. -/
theorem lookup?_valuesOf (h : environment.valuesOf start fields = .ok values)
    (hnodup : (fields.map SettingsField.name).Nodup) {field : SettingsField}
    (hfield : field ∈ fields) :
    Value.lookup? values field.name = environment.valueOf start field := by
  induction fields generalizing values with
  | nil => cases hfield
  | cons first rest ih =>
      obtain ⟨later, hlater, rfl⟩ := exists_of_valuesOf_cons h
      obtain ⟨hfirst, hrest⟩ := List.nodup_cons.1 hnodup
      rw [lookup?_entry]
      rcases List.mem_cons.1 hfield with rfl | hmem
      · rw [if_pos rfl, lookup?_valuesOf_of_not_mem hlater hfirst, Option.or_none]
      · have hne : first.name ≠ field.name := fun heq => hfirst (heq ▸ List.mem_map_of_mem hmem)
        rw [if_neg hne, ih hlater hrest hmem]

/-- A field that is not given as JSON takes the text itself. -/
theorem valueOf_text (environment : Environment) (start name : String) :
    environment.valueOf start ⟨name, none⟩ =
      (List.lookup (lowerName (start ++ name)) environment).map fun text => .str ↑text := by
  rw [valueOf]
  cases List.lookup (lowerName (start ++ name)) environment <;> rfl

end Environment

/-! ## The group of the settings for loading rules -/

/-- Only a checked value without other entries is accepted. -/
theorem eq_ok_of_onlyFields {α : Type} {names : List String} {entries : List (Value × Value)}
    {checked : Checked α} {a : α} (h : onlyFields names entries checked = .ok a) :
    checked = .ok a := by
  rw [onlyFields] at h
  split at h
  · cases h
  · obtain ⟨both, hboth, hfst⟩ : ∃ both, Checked.both checked (noOthers names entries) = .ok both ∧
        both.1 = a := by
      cases hboth : Checked.both checked (noOthers names entries) with
      | error defects => rw [hboth] at h; cases h
      | ok both => rw [hboth] at h; exact ⟨both, rfl, Except.ok.inj h⟩
    rw [(Checked.both_eq_ok_iff.1 hboth).1, hfst]

theorem exists_values_of_build {α : Type} {group : SettingsGroup α} {environment : Environment}
    {settings : α} (h : group.build environment [] = .ok settings) :
    ∃ values, environment.valuesOf group.start group.fields = .ok values ∧
      group.check values = .ok settings := by
  rw [SettingsGroup.build] at h
  cases hvalues : environment.valuesOf group.start group.fields with
  | error field => rw [hvalues] at h; cases h
  | ok values =>
      simp only [hvalues, overlay] at h
      cases honly : onlyFields (group.fields.map SettingsField.name) values
          (group.check values) with
      | error defects => rw [honly] at h; cases h
      | ok found =>
          rw [honly] at h
          exact ⟨values, rfl, eq_ok_of_onlyFields (honly.trans (congrArg _ (Except.ok.inj h)))⟩

theorem checkFile_str (text : String) : checkFile (.str text) = .ok (some text) := by
  have hname : fileName text = .ok text := by rw [fileName, Str.string?_ofString]
  change (fileName text).map some = _
  rw [hname]
  rfl

theorem eq_of_optional_checkFile {entries : List (Value × Value)} {name : String}
    {text : Option String} (htext : Value.lookup? entries name = text.map fun t => .str ↑t)
    {found : Option String} (h : Check.optional entries name none checkFile = .ok found) :
    found = text := by
  rw [Check.optional, htext] at h
  cases text with
  | none => exact (Except.ok.inj h).symm
  | some text =>
      simp only [Option.map_some, checkFile_str] at h
      exact (Except.ok.inj h).symm

theorem eq_of_optional_text {entries : List (Value × Value)} {name : String}
    {text : Option String} (htext : Value.lookup? entries name = text.map fun t => .str ↑t)
    {missing : String} {found : Str}
    (h : Check.optional entries name (missing : Str) Check.text = .ok found) :
    found = (text.getD missing : String) := by
  rw [Check.optional, htext] at h
  cases text <;> exact (Except.ok.inj h).symm

/-- The rules file and the ruleset of the group are texts of the environment. -/
theorem rulesGroup_of_build {environment : Environment} {rules : RulesSettings}
    (h : rulesGroup.build environment [] = .ok rules) :
    rules.rulesFile = List.lookup "xmlrules_rules_rules_file" environment ∧
    rules.ruleset =
      ((List.lookup "xmlrules_rules_ruleset" environment).getD "default" : String) := by
  obtain ⟨values, hvalues, hcheck⟩ := exists_values_of_build h
  have hnodup : (rulesGroup.fields.map SettingsField.name).Nodup := by decide
  have hfileName : lowerName (rulesGroup.start ++ "rules_file") = "xmlrules_rules_rules_file" := by
    decide
  have hsetName : lowerName (rulesGroup.start ++ "ruleset") = "xmlrules_rules_ruleset" := by decide
  have hfile := Environment.lookup?_valuesOf hvalues hnodup
    (List.mem_cons_self : (⟨"rules_file", none⟩ : SettingsField) ∈ rulesGroup.fields)
  have hset := Environment.lookup?_valuesOf hvalues hnodup
    (List.mem_cons_of_mem _ List.mem_cons_self :
      (⟨"ruleset", none⟩ : SettingsField) ∈ rulesGroup.fields)
  rw [Environment.valueOf_text, hfileName] at hfile
  rw [Environment.valueOf_text, hsetName] at hset
  -- the check looks at the fields one by one
  obtain ⟨found, hfound, rfl⟩ : ∃ found, Checked.both
      (Check.optional values "rules_file" none checkFile)
      (Checked.both
        (Check.optional values "ruleset" RulesSettings.standard.ruleset Check.text)
        (Check.optional values "rules" [] (Check.list Check.text))) = .ok found ∧
      (⟨found.1, found.2.1, found.2.2⟩ : RulesSettings) = rules := by
    exact map_eq_ok_iff.1 hcheck
  obtain ⟨hfirst, hothers⟩ := Checked.both_eq_ok_iff.1 hfound
  obtain ⟨hsecond, -⟩ := Checked.both_eq_ok_iff.1 hothers
  rw [show RulesSettings.standard.ruleset = ("default" : String) from rfl] at hsecond
  exact ⟨eq_of_optional_checkFile hfile hfirst, eq_of_optional_text hset hsecond⟩

/-- Where the environment says nothing of the rules as a whole, it names the rules file and the
ruleset. -/
theorem Settings.rules_of_build {environment : Environment} {settings : Settings}
    (h : Settings.build environment [] = .ok settings)
    (hwhole : List.lookup "xmlrules_rules" environment = none) :
    settings.rules.rulesFile = List.lookup "xmlrules_rules_rules_file" environment ∧
    settings.rules.ruleset =
      ((List.lookup "xmlrules_rules_ruleset" environment).getD "default" : String) := by
  rw [Settings.build] at h
  cases hvalues : environment.valuesOf "XMLRULES_" allFields with
  | error field => rw [hvalues] at h; cases h
  | ok values =>
      simp only [hvalues, overlay] at h
      obtain ⟨same, hsame, h⟩ := bind_eq_ok_iff.1 h
      cases hsame
      obtain ⟨parse, -, h⟩ := bind_eq_ok_iff.1 h
      obtain ⟨rules, hrules, h⟩ := bind_eq_ok_iff.1 h
      obtain ⟨output, -, h⟩ := bind_eq_ok_iff.1 h
      -- nothing is said of the rules as a whole, so their group is built by itself
      have hmissing : Value.lookup? values "rules" = none := by
        have hname : lowerName ("XMLRULES_" ++ "rules") = "xmlrules_rules" := by decide
        have hfound := Environment.lookup?_valuesOf hvalues
          (by decide) (List.mem_cons_of_mem _ List.mem_cons_self :
            (⟨"rules", some (rulesGroup.fields.map SettingsField.name)⟩ : SettingsField) ∈
              allFields)
        rw [Environment.valueOf, hname, hwhole, Option.bind_none] at hfound
        exact hfound
      rw [SettingsGroup.part, hmissing] at hrules
      obtain ⟨built, hbuilt, rfl⟩ := map_eq_ok_iff.1 hrules
      cases hall : onlyFields (allFields.map SettingsField.name) values
          (Checked.both parse (Checked.both (.ok built) output)) with
      | error defects => rw [hall] at h; cases h
      | ok found =>
          rw [hall] at h
          have hothers := (Checked.both_eq_ok_iff.1 (eq_ok_of_onlyFields hall)).2
          have hrules : built = found.2.1 := Except.ok.inj (Checked.both_eq_ok_iff.1 hothers).1
          have hsettings : settings.rules = built := by
            rw [hrules, ← Except.ok.inj h]
          rw [hsettings]
          exact rulesGroup_of_build hbuilt

end DepthRules
