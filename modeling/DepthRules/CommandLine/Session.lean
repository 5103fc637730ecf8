import DepthRules.CommandLine.Arguments
import DepthRules.Console.Terminal
import DepthRules.Match.Json
import DepthRules.Pass
import DepthRules.Settings.Check

/-!
# Sessions

A session runs one command line after another. Files that a run writes and the settings it makes
are there for the next run: the first run takes its settings from the environment, and every run
adds to them what its command line says, also if it fails later.

What a run gives to the console is settled before any of it is shown (`Session.run`). A terminal
that refuses an item ends the run there (`Session.runOn`).
-/

namespace DepthRules.CommandLine

/-- The environment, the files, and the settings if a run has made any. -/
structure Session where
  environment : Environment
  files : Files
  settings : Option Settings

/-- A session before its first run. -/
def Session.start (environment : Environment) (files : Files) : Session :=
  ⟨environment, files, none⟩

/-- Why a run ends before it can tell: for its settings, its rules, a file, a number of its report
that is too long to be written, or an item that the terminal refuses. -/
inductive RunError where
  | settings (cause : SettingsError)
  | load (cause : LoadError)
  | access (cause : AccessError)
  | longNumber
  | console (cause : Console.Fault)
  deriving Repr

/-- The wording of an error. -/
def RunError.message : RunError → Str
  | .settings cause => cause.message
  | .load cause => cause.message
  | .access cause => cause.message
  | .longNumber => Value.tooManyDigits
  | .console cause => cause.message

/-- How a run ends. -/
inductive Ending where
  | finished
  | listed
  | helped
  | refused (error : UsageError)
  | noRules
  | failed
  | aborted (error : RunError)
  deriving Repr

/-- The status for the way a run ends. -/
def Ending.status : Ending → Nat
  | .finished | .listed | .helped => 0
  | .refused _ | .noRules => 2
  | .failed | .aborted _ => 1

/-- What a run shows: how it ends, what the console is given, what is printed, and the log. -/
structure Outcome where
  ending : Ending
  console : List Console.Item
  printed : String
  log : List LogEntry
  deriving Repr

/-- The outcome of a run that shows nothing. -/
def Outcome.silent (ending : Ending) : Outcome := ⟨ending, [], "", []⟩

/-- The outcome of a run that prints nothing. -/
def Outcome.shown (ending : Ending) (console : List Console.Item) : Outcome :=
  ⟨ending, console, "", []⟩

/-- The settings with what a command line says of them. -/
def Arguments.adjust (arguments : Arguments) (base : Settings) : Settings :=
  { base with
    rules := {
      rulesFile := (arguments.rulesFile.map Path.normalize).or base.rules.rulesFile
      ruleset := match arguments.ruleset with
        | none | some "" => base.rules.ruleset
        | some name => name
      rules := base.rules.rules ++ arguments.rules.map Str.ofString } }

/-- Whether settings name any rules. -/
def nameRules (settings : RulesSettings) : Bool :=
  settings.rulesFile.any (· ≠ "") || !settings.rules.isEmpty

/-- The settings that a run starts from. -/
def Session.base (session : Session) : Except SettingsError Settings :=
  match session.settings with
  | some settings => .ok settings
  | none => Settings.build session.environment []

/-- Whether the console is told of a fault: it is of those in the form or the range of a scalar. -/
def isTold : Yaml.Fault → Bool
  | .malformed | .unfinished | .encoding _ => true
  | .noInteger _ _ | .longInteger _ | .noReal _ | .calendar _ => true
  | .codePoint code => code < Nat.pow 2 31
  | .hugePlace | .noDigits | .noTruth _ | .noMoment | .momentOfMapping => false

/-- How a run ends if its rules cannot be loaded. -/
def loadFailure (cause : LoadError) : Outcome :=
  match cause with
  | .rules _ | .access (.missing _) => .shown .failed [Console.notLoaded cause.message]
  | .access .nullCharacter => .shown .failed [Console.failed cause.message]
  | .access _ => .silent (.aborted (.load cause))
  | .encoding _ => .shown .failed [Console.failed cause.message]
  | .scalar fault =>
      if isTold fault then .shown .failed [Console.failed cause.message]
      else .silent (.aborted (.load cause))
  | .untold _ => .shown .failed [Console.failed cause.message]

/-- How a run ends if its pass over the document fails. -/
def passFailure : PassError → Outcome
  | .load cause => loadFailure cause
  | cause => .shown .failed [Console.failed cause.message]

/-- Shows a report in the way a command line asks for; a report as JSON can go to a file. -/
def publish (files : Files) (settings : Settings) (arguments : Arguments) (report : Report) :
    Files × Outcome :=
  match arguments.format with
  | .console =>
      (files, .shown .finished (Console.report settings.output.maxValueLength report))
  | .json =>
      match report.toJsonString? true with
      | none => (files, .silent (.aborted .longNumber))
      | some text =>
          match arguments.output with
          | none => (files, { Outcome.silent .finished with printed := text ++ "\n" })
          | some path =>
              match files.write (Path.normalize path) (Text.encodeUtf8 text.toList) with
              | .ok files => (files, .silent .finished)
              | .error cause => (files, .silent (.aborted (.access cause)))

/-- Lists the rules. -/
def listRules (files : Files) (settings : Settings) : Outcome :=
  let (loaded, log) := (Rule.load files settings.rules).outcome
  let outcome : Outcome := match loaded with
    | .ok declarations => .shown .listed (Console.ruleList declarations)
    | .error cause => loadFailure cause
  { outcome with log }

/-- Runs the rules over the document. -/
def runRules (files : Files) (settings : Settings) (arguments : Arguments) : Files × Outcome :=
  let (passed, log) := (Pass.run files settings arguments.path).outcome
  let (files, outcome) := match passed with
    | .ok report => publish files settings arguments report
    | .error cause => (files, passFailure cause)
  (files, { outcome with log })

/-- Does what a command line asks for, with settings that are made. -/
def perform (files : Files) (settings : Settings) (arguments : Arguments) : Files × Outcome :=
  if !nameRules settings.rules then (files, .shown .noRules [Console.noRules])
  else if arguments.listRules then (files, listRules files settings)
  else runRules files settings arguments

/-- The part of a log that is at least as important as a level. -/
def logFrom (level : LogLevel) (log : List LogEntry) : List LogEntry :=
  log.filter fun entry => level.rank ≤ entry.level.rank

/-- Runs what a command line asks for. -/
def Session.runRequest (session : Session) (arguments : Arguments) : Session × Outcome :=
  match session.base with
  | .error cause => (session, .silent (.aborted (.settings cause)))
  | .ok base =>
      let settings := arguments.adjust base
      let (files, outcome) := perform session.files settings arguments
      ({ session with files, settings := some settings },
        { outcome with log := logFrom arguments.logLevel outcome.log })

/-- Runs a command line, with a console to which everything can be given. -/
def Session.run (session : Session) (line : List String) : Session × Outcome :=
  match request session.files line with
  | .error (.usage error) => (session, .silent (.refused error))
  | .error (.access cause) => (session, .silent (.aborted (.access cause)))
  | .ok .help => (session, .silent .helped)
  | .ok (.run arguments) => session.runRequest arguments

/-- The outcome of a run whose terminal refuses an item after those that are shown. Where the rules
are listed, an error in a value is complained about, as far as the terminal shows the complaint;
anything else ends the run before it can tell. -/
def Outcome.refused (terminal : Console.Terminal) (outcome : Outcome) (shown : List Console.Item)
    (item : Console.Item) (fault : Console.Fault) : Outcome :=
  let aborted (fault : Console.Fault) : Outcome :=
    { outcome with ending := .aborted (.console fault), console := shown }
  match outcome.ending, fault with
  | .listed, .stream ⟨wording, true⟩ =>
      let complaint := Console.failed wording
      match terminal.refusal? (shown ++ [item]) complaint with
      | some fault => aborted fault
      | none => { outcome with ending := .failed, console := shown ++ [complaint] }
  | _, _ => aborted fault

/-- The outcome of a run on a terminal, to which what is given to the console is shown. -/
def Outcome.on (terminal : Console.Terminal) (outcome : Outcome) : Outcome :=
  match terminal.give [] outcome.console with
  | (_, none) => outcome
  | (shown, some (item, fault)) => outcome.refused terminal shown item fault

/-- Runs a command line on a terminal. -/
def Session.runOn (terminal : Console.Terminal) (session : Session) (line : List String) :
    Session × Outcome :=
  let (session, outcome) := session.run line
  (session, outcome.on terminal)

/-- Runs command lines one after another. -/
def Session.runAll (session : Session) : List (List String) → Session × List Outcome
  | [] => (session, [])
  | line :: rest =>
      let (session, outcome) := session.run line
      let (session, outcomes) := session.runAll rest
      (session, outcome :: outcomes)

end DepthRules.CommandLine
