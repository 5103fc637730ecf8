import DepthRules.CommandLine.Words
import DepthRules.Files.Basic
import DepthRules.Log
import DepthRules.Text.Lowercase

/-!
# Arguments

What a command line asks for. The files it names must be there, and words it chooses must be among
those that can be chosen; switches are checked in the order in which they first appear, and then the
operands. Of a switch that is given several times the last value counts, except that all rules
count. What cannot be a path at all is not a matter of usage.
-/

namespace DepthRules.CommandLine

open Text

/-- How a report is shown. -/
inductive ReportFormat where
  | console
  | json
  deriving DecidableEq, Repr

/-- The word for a way to show a report. -/
def ReportFormat.word : ReportFormat → String
  | .console => "console"
  | .json => "json"

/-- What a command line asks for. -/
structure Arguments where
  path : String
  rulesFile : Option String
  ruleset : Option String
  rules : List String
  format : ReportFormat
  output : Option String
  listRules : Bool
  logLevel : LogLevel
  deriving DecidableEq, Repr

/-- A command line asks for help or for a run. -/
inductive Request where
  | help
  | run (arguments : Arguments)
  deriving DecidableEq, Repr

/-- Why a command line asks for nothing: it is not one, or a path on it cannot be looked for. -/
inductive LineError where
  | usage (cause : UsageError)
  | access (cause : AccessError)
  deriving Repr

/-- All values given to a switch. -/
def valuesOf (switch : Switch) (words : List Word) : List String :=
  words.filterMap fun
    | .value s text => if s = switch then some text else none
    | _ => none

/-- The value that counts for a switch. -/
def valueOf? (switch : Switch) (words : List Word) : Option String :=
  (valuesOf switch words).getLast?

/-- The operands. -/
def operands (words : List Word) : List String :=
  words.filterMap fun
    | .operand text => some text
    | _ => none

/-- Refuses a path at which there is no file. -/
def requireFile (files : Files) (parameter path : String) : Except LineError Unit :=
  match files.find path with
  | .file _ _ => .ok ()
  | .directory => .error (.usage (.directory parameter path))
  | .noPath => .error (.access .nullCharacter)
  | _ => .error (.usage (.noSuchFile parameter path))

/-- Refuses what cannot be a path. -/
def requirePath (files : Files) (path : String) : Except LineError Unit :=
  match files.find path with
  | .noPath => .error (.access .nullCharacter)
  | _ => .ok ()

/-- What a word chooses, whose case does not matter. -/
def choose {α : Type} (switch : Switch) (choices : List (String × α)) (text : String) :
    Except LineError α :=
  let folded := foldCase text.toList
  match choices.find? fun choice => foldCase choice.1.toList = folded with
  | some choice => .ok choice.2
  | none =>
      .error (.usage (.noChoice switch.word text
        (choices.map fun choice => String.ofList (foldCase choice.1.toList))))

/-- The ways to show a report by their words. -/
def formatChoices : List (String × ReportFormat) :=
  [ReportFormat.console, .json].map fun format => (format.word, format)

/-- The levels of a log by their words. -/
def levelChoices : List (String × LogLevel) :=
  LogLevel.all.map fun level => (level.word, level)

/-- The chosen way to show a report. -/
def formatOf (words : List Word) : Except LineError ReportFormat :=
  match valueOf? .format words with
  | none => .ok .console
  | some text => choose .format formatChoices text

/-- The chosen level of the log. -/
def levelOf (words : List Word) : Except LineError LogLevel :=
  match valueOf? .logLevel words with
  | none => .ok .warning
  | some text => choose .logLevel levelChoices text

/-- Checks the value that counts for a switch. -/
def checkSwitch (files : Files) (words : List Word) : Switch → Except LineError Unit
  | .rules =>
      match valueOf? .rules words with
      | none => .ok ()
      | some path => requireFile files Switch.rules.word path
  | .output =>
      match valueOf? .output words with
      | none => .ok ()
      | some path => requirePath files path
  | .format => (formatOf words).map fun _ => ()
  | .logLevel => (levelOf words).map fun _ => ()
  | _ => .ok ()

/-- Checks the switches in the order of the words. -/
def checkSwitches (files : Files) (words : List Word) : List Word → Except LineError Unit
  | [] => .ok ()
  | .value switch _ :: rest => do
      checkSwitch files words switch
      checkSwitches files words rest
  | _ :: rest => checkSwitches files words rest

/-- The one path among the operands. -/
def pathOf (files : Files) : List String → Except LineError String
  | [] => .error (.usage .missingPath)
  | path :: others => do
      requireFile files pathParameter path
      match others with
      | [] => return path
      | first :: others => throw (.usage (.unexpected first others))

/-- What a command line asks for. -/
def request (files : Files) (line : List String) : Except LineError Request := do
  let words ← (readWords line).mapError LineError.usage
  if words.contains (.on .help) then return .help
  checkSwitches files words words
  let path ← pathOf files (operands words)
  return .run {
    path
    rulesFile := valueOf? .rules words
    ruleset := valueOf? .ruleset words
    rules := valuesOf .rule words
    format := ← formatOf words
    output := valueOf? .output words
    listRules := words.contains (.on .listRules)
    logLevel := ← levelOf words }

end DepthRules.CommandLine
