import DepthRules.Files.Basic
import DepthRules.Log
import DepthRules.Rule.Parser
import DepthRules.Rule.RulesetCheck
import DepthRules.Settings.Basic
import DepthRules.Yaml.Reading

/-!
# Loading rules

Rules come from a file and from settings, those of the file first. A file whose name ends in that of
the ruleset format holds rulesets, of which one is taken; any other file holds a rule to a line.
-/

namespace DepthRules

open Text

/-- Why rules cannot be loaded: a file cannot be read or is not text, a rule is refused, a scalar of
a rulesets file is no value of its type, or a defect of one cannot be told. -/
inductive LoadError where
  | access (cause : AccessError)
  | encoding (cause : Utf8Error)
  | rules (cause : Rule.ReadError)
  | scalar (fault : Yaml.Fault)
  | untold (cause : EncodeError)
  deriving Repr

/-- The wording of an error. -/
def LoadError.message : LoadError → Str
  | .access cause => cause.message
  | .encoding cause => cause.message
  | .rules cause => cause.message
  | .scalar fault => fault.message
  | .untold cause => cause.message

namespace Rule

/-- The text of the file at a path, with all line ends the same. -/
def readText (files : Files) (path : String) : Except LoadError (List Char) :=
  match files.read path with
  | .error cause => .error (.access cause)
  | .ok bytes =>
      match decodeUtf8 bytes with
      | .error cause => .error (.encoding cause)
      | .ok cs => .ok (unifyNewlines cs)

/-- The rules of a file with a rule to a line. -/
def readLines (files : Files) (path : String) : Except LoadError (List Declaration) := do
  let text ← readText files (Path.normalize path)
  match parseLines path text with
  | .ok declarations => return declarations
  | .error cause => throw (.rules cause)

/-- The rulesets a file holds. -/
def parseRulesets (path : String) (bytes : List UInt8) : Except LoadError RulesFile :=
  match Yaml.read bytes with
  | .error .malformed | .error .unfinished => .error (.rules (.malformedYaml path))
  | .error (.encoding cause) => .error (.encoding cause)
  | .error fault => .error (.scalar fault)
  | .ok value =>
      match RulesFile.read value with
      | .error (.defects defects) => .error (.rules (.malformedFile path defects))
      | .error (.encoding cause) => .error (.untold cause)
      | .ok file => .ok file

/-- The rules of one ruleset of a file. -/
def readRuleset (files : Files) (path : String) (name : Str) :
    Except LoadError (List Declaration) := do
  let bytes ← (files.read path).mapError .access
  let file ← parseRulesets path bytes
  match file.resolve name with
  | .ok declarations => return declarations
  | .error cause => throw (.rules cause)

/-- The endings of names of files with rulesets. -/
def rulesetEndings : List String := [".yaml", ".yml"]

/-- The rules of the file at a path, and how the log names where they are from. -/
def readFile (files : Files) (path : String) (ruleset : Str) :
    Except LoadError (List Declaration × Str) :=
  if rulesetEndings.contains (Path.ending path) then
    (readRuleset files path ruleset).map (·, "ruleset '" ++ ruleset ++ "' of " ++ path)
  else (readLines files path).map (·, path)

/-- Reads the rules of the file in the settings, if there is one. -/
def loadFile (files : Files) (settings : RulesSettings) : Task LoadError (List Declaration) := do
  match settings.rulesFile with
  | none => return []
  | some path =>
      if path.isEmpty then return []
      let (declarations, origin) ←
        Task.ofExcept id (readFile files (Path.normalize path) settings.ruleset)
      Task.log .info .rules
        ("Loaded " ++ toString declarations.length ++ " rule(s) from " ++ origin)
      return declarations

/-- Reads rules given by their texts. -/
def parseAll : List Str → Except ReadError (List Declaration)
  | [] => .ok []
  | text :: rest => do
      let declaration ← parse text
      let declarations ← parseAll rest
      return declaration :: declarations

/-- Tells which rules there are. -/
def logActive (declarations : List Declaration) : Task LoadError Unit := do
  if declarations.isEmpty then
    Task.log .warning .rules "No rules configured - no handlers will fire"
  else
    Task.log .debug .rules "Active rules:"
    for d in declarations do
      Task.log .debug .rules ("  " ++ d.label ++ " (" ++ d.text ++ ")")

/-- Loads the rules the settings name. -/
def load (files : Files) (settings : RulesSettings) : Task LoadError (List Declaration) := do
  let fromFile ← loadFile files settings
  let inline ← Task.ofExcept LoadError.rules (parseAll settings.rules)
  let declarations := fromFile ++ inline
  logActive declarations
  return declarations

end Rule

end DepthRules
