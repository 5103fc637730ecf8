import DepthRules.CommandLine.Switch
import DepthRules.Text.Quoted
import DepthRules.Text.Similarity

/-!
# Usage errors

The ways in which a command line can be wrong. None of them changes anything.
-/

namespace DepthRules.CommandLine

open Text

/-- How messages name the argument for the document. -/
def pathParameter : String := "PATH"

/-- Why a command line is refused. -/
inductive UsageError where
  | missingPath
  | unexpected (first : String) (others : List String)
  | noSuchSwitch (word : String) (similar : List String)
  | missingValue (word : String)
  | needlessValue (word : String)
  | noSuchFile (parameter path : String)
  | directory (parameter path : String)
  | noChoice (parameter value : String) (choices : List String)
  deriving DecidableEq, Repr

namespace UsageError

/-- What is said of similar words. -/
def suggestion : List String → String
  | [] => ""
  | [word] => " Did you mean " ++ word ++ "?"
  | words => " (Possible options: " ++ ", ".intercalate words ++ ")"

/-- What is said of a value that a parameter cannot have. -/
def invalid (parameter complaint : String) : String :=
  "Invalid value for '" ++ parameter ++ "': " ++ complaint

/-- The wording of an error. -/
def message : UsageError → String
  | .missingPath => "Missing argument '" ++ pathParameter ++ "'."
  | .unexpected first [] => "Got unexpected extra argument (" ++ first ++ ")"
  | .unexpected first others =>
      "Got unexpected extra arguments (" ++ " ".intercalate (first :: others) ++ ")"
  | .noSuchSwitch word similar => "No such option: " ++ word ++ suggestion similar
  | .missingValue word => "Option '" ++ word ++ "' requires an argument."
  | .needlessValue word => "Option '" ++ word ++ "' does not take a value."
  | .noSuchFile parameter path => invalid parameter ("File " ++ quote path ++ " does not exist.")
  | .directory parameter path => invalid parameter ("File " ++ quote path ++ " is a directory.")
  | .noChoice parameter value choices =>
      invalid parameter
        (quote value ++ " is not one of " ++ ", ".intercalate (choices.map quote) ++ ".")

end UsageError

/-- The error for a word that is no switch, with the switches it may have meant. -/
def unknownWord (word : String) : UsageError :=
  .noSuchSwitch word (similar word (Switch.all.map Switch.word))

end DepthRules.CommandLine
