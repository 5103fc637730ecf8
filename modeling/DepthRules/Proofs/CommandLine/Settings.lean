import DepthRules.CommandLine.Session
import DepthRules.Proofs.CommandLine.Words
import DepthRules.Proofs.Settings.Environment
import Mathlib

/-!
# The settings of a session

A session keeps the settings of its last run, so that every run adds to what the runs before it were
given. What comes of this does not depend on how the runs end: the settings a run works with are
those of the environment combined with what all accepted command lines say, its own among them
(`Settings.combined`, `Session.settings_of_runs`). Of several rules files and rulesets the last one
counts, and rules add up. A command line that is refused changes nothing.
-/

namespace DepthRules

open CommandLine

/-! ## Combining what command lines say -/

/-- Settings with what several command lines say of them. A ruleset without a name counts as
none. -/
def Settings.combined (base : Settings) (given : List Arguments) : Settings :=
  { base with
    rules := {
      rulesFile :=
        ((given.filterMap Arguments.rulesFile).getLast?.map Path.normalize).or base.rules.rulesFile
      ruleset :=
        (((given.filterMap Arguments.ruleset).filter (· ≠ "")).getLast?.map Str.ofString).getD
          base.rules.ruleset
      rules := base.rules.rules ++ (given.flatMap Arguments.rules).map Str.ofString } }

theorem Settings.combined_nil (base : Settings) : base.combined [] = base := by
  simp [Settings.combined]

/-- What later command lines say comes on top of what earlier ones say. -/
theorem Settings.combined_append (base : Settings) (given later : List Arguments) :
    base.combined (given ++ later) = (base.combined given).combined later := by
  simp only [Settings.combined, List.filterMap_append, List.filter_append, List.flatMap_append,
    List.map_append, List.getLast?_append, List.append_assoc, Option.map_or, Option.or_assoc,
    Settings.mk.injEq, RulesSettings.mk.injEq, true_and, and_true]
  cases ((later.filterMap Arguments.ruleset).filter (· ≠ "")).getLast? <;> simp

/-- A single command line is combined with settings by adjusting them. -/
theorem Settings.combined_singleton (base : Settings) (arguments : Arguments) :
    base.combined [arguments] = arguments.adjust base := by
  simp only [Settings.combined, Arguments.adjust, List.flatMap_singleton, Settings.mk.injEq,
    RulesSettings.mk.injEq, true_and, and_true]
  constructor
  · cases hfile : arguments.rulesFile <;> simp [hfile]
  · cases hset : arguments.ruleset with
    | none => simp [hset]
    | some name => by_cases hname : name = "" <;> simp [hset, hname]

section Precedence

variable (base : Settings) (given : List Arguments) {arguments : Arguments}

/-- A rules file that the last command line names counts. -/
theorem Settings.combined_rulesFile {path : String} (h : arguments.rulesFile = some path) :
    (base.combined (given ++ [arguments])).rules.rulesFile = some (Path.normalize path) := by
  simp [Settings.combined, h]

/-- A ruleset that the last command line names counts. -/
theorem Settings.combined_ruleset {name : String} (h : arguments.ruleset = some name)
    (hname : name ≠ "") : (base.combined (given ++ [arguments])).rules.ruleset = name := by
  simp [Settings.combined, h, hname]

end Precedence

namespace CommandLine

/-! ## What a command line asks for -/

/-- The settings a command line asks for are in its words. -/
theorem exists_words_of_request {files : Files} {line : List String} {arguments : Arguments}
    (h : request files line = .ok (.run arguments)) :
    ∃ words, readWords line = .ok words ∧ arguments.rulesFile = valueOf? .rules words ∧
      arguments.ruleset = valueOf? .ruleset words ∧ arguments.rules = valuesOf .rule words := by
  obtain ⟨words, hread, hasks⟩ := request_eq_run_iff.1 h
  exact ⟨words, hread, hasks.rulesFile_eq, hasks.ruleset_eq, hasks.rules_eq⟩

/-- A command line asks for a run, or not at all. -/
theorem asksForRun_or (files : Files) (line : List String) :
    (∃ arguments, request files line = .ok (.run arguments)) ∨
      ∀ arguments, request files line ≠ .ok (.run arguments) := by
  rw [← not_exists]
  exact em _

namespace Session

/-- What the command lines of a session ask for, without those that are refused or ask for help. -/
def accepted (session : Session) : List (List String) → List Arguments
  | [] => []
  | line :: rest =>
      match request session.files line with
      | .ok (.run arguments) => arguments :: (session.run line).1.accepted rest
      | _ => (session.run line).1.accepted rest

/-! ## One run -/

variable {session : Session} {line : List String} {base : Settings} {arguments : Arguments}

/-- An accepted command line is worked on with the adjusted settings, which stay. -/
theorem run_of_request (hbase : session.base = .ok base)
    (hrequest : request session.files line = .ok (.run arguments)) :
    let settings := arguments.adjust base
    let done := perform session.files settings arguments
    session.run line = ({ session with files := done.1, settings := some settings },
      { done.2 with log := logFrom arguments.logLevel done.2.log }) := by
  simp only [run, hrequest, runRequest, hbase]

/-- Any other command line changes nothing. -/
theorem run_of_not_request
    (hrequest : ∀ arguments, request session.files line ≠ .ok (.run arguments)) :
    (session.run line).1 = session := by
  rw [run]
  cases hline : request session.files line with
  | error cause => cases cause <;> rfl
  | ok asked =>
      cases asked with
      | help => rfl
      | run arguments => exact absurd hline (hrequest arguments)

theorem accepted_of_request (hrequest : request session.files line = .ok (.run arguments))
    (rest : List (List String)) :
    session.accepted (line :: rest) = arguments :: (session.run line).1.accepted rest := by
  simp only [accepted, hrequest]

theorem accepted_of_not_request
    (hrequest : ∀ arguments, request session.files line ≠ .ok (.run arguments))
    (rest : List (List String)) : session.accepted (line :: rest) = session.accepted rest := by
  rw [accepted, run_of_not_request hrequest]
  split
  · rename_i arguments hline
    exact absurd hline (hrequest arguments)
  · rfl

/-! ## All runs -/

theorem runAll_cons (session : Session) (line : List String) (rest : List (List String)) :
    (session.runAll (line :: rest)).1 = ((session.run line).1.runAll rest).1 := rfl

/-- The settings that a session comes to are those it starts from, combined with what all accepted
command lines say. -/
theorem base_runAll (hbase : session.base = .ok base) (lines : List (List String)) :
    (session.runAll lines).1.base = .ok (base.combined (session.accepted lines)) := by
  induction lines generalizing session base with
  | nil =>
      rw [accepted, Settings.combined_nil]
      exact hbase
  | cons line rest ih =>
      rw [runAll_cons]
      rcases asksForRun_or session.files line with ⟨arguments, hrequest⟩ | hrefused
      · have hnext : (session.run line).1.base = .ok (arguments.adjust base) := by
          rw [run_of_request hbase hrequest]
          rfl
        rw [ih hnext, accepted_of_request hrequest, ← Settings.combined_singleton,
          ← Settings.combined_append, List.singleton_append]
      · rw [accepted_of_not_request hrefused, run_of_not_request hrefused]
        exact ih hbase

/-- What is accepted of command lines in a row is what is accepted of the first ones, and then of
the others where these leave the session. -/
theorem accepted_append (session : Session) (earlier later : List (List String)) :
    session.accepted (earlier ++ later) =
      session.accepted earlier ++ (session.runAll earlier).1.accepted later := by
  induction earlier generalizing session with
  | nil => rfl
  | cons line rest ih =>
      rw [List.cons_append, runAll_cons]
      rcases asksForRun_or session.files line with ⟨arguments, hrequest⟩ | hrefused
      · rw [accepted_of_request hrequest, accepted_of_request hrequest, ih, List.cons_append]
      · rw [accepted_of_not_request hrefused, accepted_of_not_request hrefused,
          run_of_not_request hrefused]
        exact ih session

/-! ## The settings of every run -/

/-- The settings that the runs of a session work with, whatever command lines come before. A run of
an accepted command line works with the settings of the environment combined with what all accepted
command lines up to its own say. It leaves just these settings, and would do so with any other
files, with which it may end in another way. A rules file and a ruleset with a name that are given
to the run itself count before all others; of several words for one of them on the line the last one
is given. The settings for documents and for showing matches stay as they are. A command line that
is not accepted changes nothing. Unless the environment says something of the rules as a whole, it
names the rules file, if there is one, and the ruleset, if it is not the standard one. -/
theorem settings_of_runs {environment : Environment} {base : Settings}
    (hbase : Settings.build environment [] = .ok base) (files : Files)
    (earlier : List (List String)) (line : List String) :
    let session := ((start environment files).runAll earlier).1
    let given := (start environment files).accepted earlier
    (∀ arguments, request session.files line = .ok (.run arguments) →
      let settings := base.combined (given ++ [arguments])
      let done := perform session.files settings arguments
      (start environment files).accepted (earlier ++ [line]) = given ++ [arguments] ∧
      (∃ words, readWords line = .ok words ∧ arguments.rulesFile = valueOf? .rules words ∧
        arguments.ruleset = valueOf? .ruleset words ∧ arguments.rules = valuesOf .rule words) ∧
      session.run line = ({ session with files := done.1, settings := some settings },
        { done.2 with log := logFrom arguments.logLevel done.2.log }) ∧
      (∀ others, request others line = .ok (.run arguments) →
        (({ session with files := others } : Session).run line).1.settings = some settings) ∧
      (∀ path, arguments.rulesFile = some path →
        settings.rules.rulesFile = some (Path.normalize path)) ∧
      (∀ name, arguments.ruleset = some name → name ≠ "" → settings.rules.ruleset = name) ∧
      settings.parse = base.parse ∧ settings.output = base.output) ∧
    ((∀ arguments, request session.files line ≠ .ok (.run arguments)) →
      (start environment files).accepted (earlier ++ [line]) = given ∧
      (session.run line).1 = session) ∧
    (List.lookup "xmlrules_rules" environment = none →
      base.rules.rulesFile = List.lookup "xmlrules_rules_rules_file" environment ∧
      base.rules.ruleset =
        ((List.lookup "xmlrules_rules_ruleset" environment).getD "default" : String)) := by
  intro session given
  have hstart : (start environment files).base = .ok base := hbase
  have hsession : session.base = .ok (base.combined given) := base_runAll hstart earlier
  refine ⟨fun arguments hrequest => ?_, fun hrefused => ?_, Settings.rules_of_build hbase⟩
  · intro settings done
    have hsettings : arguments.adjust (base.combined given) = settings := by
      rw [← Settings.combined_singleton, ← Settings.combined_append]
    refine ⟨?_, exists_words_of_request hrequest, ?_, fun others hothers => ?_,
      fun path hpath => Settings.combined_rulesFile base given hpath,
      fun name hname hne => Settings.combined_ruleset base given hname hne, rfl, rfl⟩
    · rw [accepted_append, accepted_of_request hrequest]
      rfl
    · rw [run_of_request hsession hrequest, hsettings]
    · -- the session with other files starts from the same settings
      have hbase' : ({ session with files := others } : Session).base =
          .ok (base.combined given) := hsession
      rw [run_of_request hbase' hothers, hsettings]
  · refine ⟨?_, run_of_not_request hrefused⟩
    rw [accepted_append, accepted_of_not_request hrefused]
    exact List.append_nil given

/-- An environment that names a ruleset. -/
def namingEnvironment : Environment := .ofList [("XMLRULES_RULES_RULESET", "named")]

/-- A document in an otherwise empty directory. -/
def documentFiles : Files := ⟨[], [], [([['a']], "<a/>".toUTF8.data.toList)]⟩

/-- Command lines of which the first one fails for want of rules, and the second one is refused. -/
def failingLines : List (List String) := [["a", "--ruleset", "mine"], ["--rule", "comment:1"]]

/-- What the command line `a --rule element:0:a --ruleset=` asks for. -/
def unnamedArguments : Arguments :=
  ⟨"a", none, some "", ["element:0:a"], .console, none, false, .warning⟩

/-- The settings of the environment that names a ruleset. -/
def namedSettings : Settings := { Settings.standard with rules := ⟨none, "named", []⟩ }

/-- The run after a failed one and a refused one works with the ruleset that the failed run was
given. -/
theorem settings_of_runs_failing :
    Settings.build namingEnvironment [] = .ok namedSettings ∧
    request ((start namingEnvironment documentFiles).runAll failingLines).1.files
      ["a", "--rule", "element:0:a", "--ruleset="] = .ok (.run unnamedArguments) ∧
    (((start namingEnvironment documentFiles).runAll failingLines).1.run
      ["a", "--rule", "element:0:a", "--ruleset="]).1.settings =
        some { namedSettings with rules := ⟨none, "mine", ["element:0:a"]⟩ } := by
  have hbase : Settings.build namingEnvironment [] = .ok namedSettings := by cbv
  have hrequest : request ((start namingEnvironment documentFiles).runAll failingLines).1.files
      ["a", "--rule", "element:0:a", "--ruleset="] = .ok (.run unnamedArguments) := by cbv
  have hgiven : (start namingEnvironment documentFiles).accepted failingLines =
      [⟨"a", none, some "mine", [], .console, none, false, .warning⟩] := by cbv
  obtain ⟨hrun, -, -⟩ := settings_of_runs hbase documentFiles failingLines
    ["a", "--rule", "element:0:a", "--ruleset="]
  obtain ⟨-, -, hleft, -⟩ := hrun unnamedArguments hrequest
  rw [hgiven] at hleft
  refine ⟨hbase, hrequest, ?_⟩
  rw [hleft]
  decide

end Session

end CommandLine

end DepthRules
