import DepthRules.Json.Reader
import DepthRules.Text.Lowercase

/-!
# Settings from the environment

An environment gives texts to names, whose case does not matter. A field with parts is given as
JSON, where the case of the names of the parts does not matter either.
-/

namespace DepthRules

open Text

/-- Texts given to names in lower case. -/
abbrev Environment := List (String × String)

/-- A name in lower case. -/
def lowerName (name : String) : String := String.ofList (lowercase name.toList)

/-- The environment in which texts are given to names in this order: of several names that are the
same but for their case the last one counts. -/
def Environment.ofList (given : List (String × String)) : Environment :=
  (given.map fun e => (lowerName e.1, e.2)).reverse

/-- A field of settings: its name, and if it is given as JSON the names of its parts. -/
structure SettingsField where
  name : String
  parts : Option (List String)

/-- An entry of a mapping, under the name of the part it means. -/
def SettingsField.rename (parts : List String) (entry : Value × Value) : Value × Value :=
  match entry.1 with
  | .str name =>
      match parts.find? fun part : String => part == lower name with
      | some part => (.str part, entry.2)
      | none => entry
  | _ => entry

/-- The value a text gives to a field; none if it gives none. An error if the text is not JSON. -/
def SettingsField.valueOf (field : SettingsField) (text : String) : Except Unit (Option Value) :=
  match field.parts with
  | none => .ok (some (.str text))
  | some parts =>
      match Json.readData? text with
      | none => .error ()
      | some .null => .ok none
      | some (.dict entries) =>
          let renamed := entries.map (SettingsField.rename parts)
          .ok (some (.dict (Value.ofEntries renamed)))
      | some value => .ok (some value)

/-- The values the environment gives to fields, whose names there have a common start. The name of
the first field with a text that is not JSON is the error. -/
def Environment.valuesOf (environment : Environment) (start : String) :
    List SettingsField → Except String (List (Value × Value))
  | [] => .ok []
  | field :: rest => do
      let value ← match List.lookup (lowerName (start ++ field.name)) environment with
        | none => pure none
        | some text =>
            match field.valueOf text with
            | .ok value => pure value
            | .error () => throw field.name
      let values ← environment.valuesOf start rest
      return match value with
        | some v => (.str field.name, v) :: values
        | none => values

end DepthRules
