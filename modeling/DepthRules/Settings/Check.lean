import DepthRules.Check.Field
import DepthRules.Settings.Basic
import DepthRules.Settings.Environment

/-!
# Settings from what is given

Every group of settings takes its fields from what is given for it, then from the environment, and
then from the standard settings. Unknown fields are refused.
-/

namespace DepthRules

open Check

/-- Why settings are refused: a text in the environment that is not JSON, or defects. -/
inductive SettingsError where
  | notJson (field : String)
  | defects (found : List Defect)
  deriving Repr

/-- The wording of an error. -/
def SettingsError.message : SettingsError → Str
  | .notJson field =>
      "error parsing value for field \"" ++ field ++ "\" from source \"EnvSettingsSource\""
  | .defects found => Defect.describeAll found

/-- One defect for each entry whose name is not among those allowed. -/
def noOthers (names : List String) : List (Value × Value) → Checked Unit
  | [] => .ok ()
  | (key, _) :: rest =>
      let here : Checked Unit := match key with
        | .str name =>
            if names.any fun known => known == name then .ok ()
            else Checked.within name.lossy (refuse "Extra inputs are not permitted")
        | _ => .ok ()
      (Checked.both here (noOthers names rest)).map fun _ => ()

/-- Whether a key is a text that holds something other than characters. -/
def isBrokenText : Value → Bool
  | .str s => !decide s.IsChars
  | _ => false

/-- A checked value, with a defect for every other entry. Where a name is no proper text, that is
all that is said. -/
def onlyFields {α : Type} (names : List String) (entries : List (Value × Value))
    (checked : Checked α) : Checked α :=
  if entries.any fun e => isBrokenText e.1 then refuse notUnicode
  else (Checked.both checked (noOthers names entries)).map Prod.fst

/-- Puts entries into a mapping one after the other, mappings into mappings. -/
def overlay : List (Value × Value) → List (Value × Value) → List (Value × Value)
  | under, [] => under
  | under, (key, value) :: rest =>
      let merged : Value := match under.find? (fun e => Value.sameKey e.1 key), value with
        | some (_, .dict old), .dict new => .dict (overlay old new)
        | _, _ => value
      overlay (Value.insertEntry under key merged) rest
  termination_by _ entries => sizeOf entries

/-- A group of settings: the start of its names in the environment, its fields, and the check of its
entries. -/
structure SettingsGroup (α : Type) where
  start : String
  fields : List SettingsField
  check : List (Value × Value) → Checked α

/-- The settings of a group from the entries given for it and from the environment. -/
def SettingsGroup.build {α : Type} (group : SettingsGroup α) (environment : Environment)
    (given : List (Value × Value)) : Except SettingsError α :=
  match environment.valuesOf group.start group.fields with
  | .error field => .error (.notJson field)
  | .ok values =>
      let entries := overlay values given
      match onlyFields (group.fields.map SettingsField.name) entries (group.check entries) with
      | .ok settings => .ok settings
      | .error defects => .error (.defects defects)

/-- The group of the settings for reading documents. -/
def parseGroup : SettingsGroup ParseSettings where
  start := "XMLRULES_PARSE_"
  fields := ["remove_blank_text", "resolve_entities", "huge_tree", "strip_cdata"].map (⟨·, none⟩)
  check entries :=
    let standard := ParseSettings.standard
    (Checked.both (optional entries "remove_blank_text" standard.removeBlankText truth) <|
      Checked.both (optional entries "resolve_entities" standard.resolveEntities truth) <|
      Checked.both (optional entries "huge_tree" standard.hugeTree truth)
        (optional entries "strip_cdata" standard.stripCdata truth)).map
      fun (blank, entities, huge, cdata) => ⟨blank, entities, huge, cdata⟩

/-- The name of a rules file, or nothing. -/
def checkFile (v : Value) : Checked (Option String) := do
  match ← textOrNull v with
  | none => return none
  | some s => (fileName s).map some

/-- The group of the settings for loading rules. -/
def rulesGroup : SettingsGroup RulesSettings where
  start := "XMLRULES_RULES_"
  fields := [⟨"rules_file", none⟩, ⟨"ruleset", none⟩, ⟨"rules", some []⟩]
  check entries :=
    let standard := RulesSettings.standard
    (Checked.both (optional entries "rules_file" standard.rulesFile checkFile) <|
      Checked.both (optional entries "ruleset" standard.ruleset text)
        (optional entries "rules" standard.rules (Check.list text))).map
      fun (file, ruleset, rules) => ⟨file, ruleset, rules⟩

/-- The group of the settings for showing matches. -/
def outputGroup : SettingsGroup OutputSettings where
  start := "XMLRULES_OUTPUT_"
  fields := [⟨"max_value_length", none⟩]
  check entries :=
    optional entries "max_value_length" OutputSettings.standard fun v =>
      (atLeast leastValueLength v).map fun length => ⟨length.val, length.property⟩

/-- The settings of a group that is a part of other settings: those given as a mapping, or, if
nothing is given, those of the environment. In the first case errors are defects of the part. -/
def SettingsGroup.part {α : Type} (group : SettingsGroup α) (environment : Environment)
    (name kind : String) (entries : List (Value × Value)) : Except SettingsError (Checked α) :=
  match Value.lookup? entries name with
  | none => (group.build environment []).map .ok
  | some v =>
      .ok <| Checked.within name do
        let given ← fieldsOf kind v
        match group.build environment given with
        | .ok settings => .ok settings
        | .error (.defects defects) => .error defects
        | .error (.notJson field) =>
            refuse ("Value error, " ++ (SettingsError.notJson field).message)

/-- The fields of all settings. -/
def allFields : List SettingsField :=
  [⟨"parse", some (parseGroup.fields.map SettingsField.name)⟩,
    ⟨"rules", some (rulesGroup.fields.map SettingsField.name)⟩,
    ⟨"output", some (outputGroup.fields.map SettingsField.name)⟩]

/-- The names in the environment that mean settings. -/
def settingsNames : List String :=
  let names (start : String) (fields : List SettingsField) : List String :=
    fields.map fun field => start ++ (SettingsField.name field).toUpper
  names "XMLRULES_" allFields ++ names parseGroup.start parseGroup.fields ++
    names rulesGroup.start rulesGroup.fields ++ names outputGroup.start outputGroup.fields

/-- All settings, from the entries given for them and from the environment. -/
def Settings.build (environment : Environment) (given : List (Value × Value)) :
    Except SettingsError Settings := do
  let values ← match environment.valuesOf "XMLRULES_" allFields with
    | .error field => throw (.notJson field)
    | .ok values => pure values
  let entries := overlay values given
  let parse ← parseGroup.part environment "parse" "ParseSettings" entries
  let rules ← rulesGroup.part environment "rules" "RulesSettings" entries
  let output ← outputGroup.part environment "output" "OutputSettings" entries
  let parts := Checked.both parse (Checked.both rules output)
  match onlyFields (allFields.map SettingsField.name) entries parts with
  | .ok (parse, rules, output) => return ⟨parse, rules, output⟩
  | .error defects => throw (.defects defects)

/-- All settings, each group built by itself from the entries given for it. -/
def Settings.ofGroups (environment : Environment) (parse rules output : List (Value × Value)) :
    Except SettingsError Settings := do
  return ⟨← parseGroup.build environment parse, ← rulesGroup.build environment rules,
    ← outputGroup.build environment output⟩

end DepthRules
