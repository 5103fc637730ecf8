import DepthRules.Proofs.CommandLine.Outcome
import DepthRules.Proofs.CommandLine.Settings
import DepthRules.Proofs.Files.Write

/-!
# What runs write and print

A run that ends well and reports as JSON makes its report of the files as it finds them, and either
prints the report or puts it into one file, which can be one that it has read. Any other run leaves
all files as they are and prints nothing, whatever stops it (`Effect`, `Session.run_writes`).
-/

namespace DepthRules.CommandLine

/-- A run for the arguments that ends in this way ends well, and has reported as JSON. -/
structure EndsInJson (arguments : Arguments) (ending : Ending) : Prop where
  format_eq : arguments.format = .json
  not_listed : arguments.listRules = false
  status_eq : ending.status = 0

/-- The rules are named, and a pass over the files comes to the report, which has the text. -/
structure Passes (files : Files) (settings : Settings) (arguments : Arguments) (report : Report)
    (text : String) : Prop where
  named : nameRules settings.rules = true
  passed : (Pass.run files settings arguments.path).outcome.1 = .ok report
  text_eq : report.toJsonString? true = some text

/-- What a run leaves of the files and shows: it changes and prints nothing unless it ends well and
reports as JSON, and then it prints the report of a pass over the files or writes it to one file. -/
inductive Effect (files : Files) (settings : Settings) (arguments : Arguments) :
    Files → Outcome → Prop where
  | nothing {outcome : Outcome} (hprinted : outcome.printed = "")
      (hnot : ¬ EndsInJson arguments outcome.ending) : Effect files settings arguments files outcome
  | printed {report : Report} {text : String} {outcome : Outcome}
      (hjson : EndsInJson arguments outcome.ending)
      (hpass : Passes files settings arguments report text) (houtput : arguments.output = none)
      (hprinted : outcome.printed = text ++ "\n") : Effect files settings arguments files outcome
  | written {report : Report} {text path : String} {after : Files} {outcome : Outcome}
      (hjson : EndsInJson arguments outcome.ending)
      (hpass : Passes files settings arguments report text)
      (houtput : arguments.output = some path)
      (hwrite : files.write (Path.normalize path) (Text.encodeUtf8 text.toList) = .ok after)
      (hprinted : outcome.printed = "") : Effect files settings arguments after outcome

variable {files : Files} {settings : Settings} {arguments : Arguments}

/-! ## Failures -/

theorem not_endsInJson_of_status {ending : Ending} {status : Nat} (h : ending.status = status)
    (hne : status ≠ 0) : ¬ EndsInJson arguments ending :=
  fun hjson => hne (h.symm.trans hjson.status_eq)

theorem loadFailure_printed (cause : LoadError) : (loadFailure cause).printed = "" := by
  rcases loadFailure_cases cause with ⟨-, h⟩ | ⟨-, h | h⟩ <;> rw [h] <;> rfl

theorem passFailure_printed (cause : PassError) : (passFailure cause).printed = "" := by
  cases cause with
  | load cause => exact loadFailure_printed cause
  | document cause => rfl
  | rule cause => rfl
  | defects found => rfl

theorem passFailure_status (cause : PassError) : (passFailure cause).ending.status = 1 := by
  cases cause with
  | load cause => exact loadFailure_status cause
  | document cause => rfl
  | rule cause => rfl
  | defects found => rfl

theorem listRules_printed (files : Files) (settings : Settings) :
    (listRules files settings).printed = "" := by
  rw [listRules]
  rcases (Rule.load files settings.rules).outcome with ⟨_ | declarations, log⟩
  · exact loadFailure_printed _
  · rfl

/-! ## What the effect is in each case -/

section Cases

variable {after : Files} {outcome : Outcome}

theorem Effect.of_not_endsInJson (h : Effect files settings arguments after outcome)
    (hnot : ¬ EndsInJson arguments outcome.ending) : after = files ∧ outcome.printed = "" := by
  cases h with
  | nothing hprinted _ => exact ⟨rfl, hprinted⟩
  | printed hjson => exact absurd hjson hnot
  | written hjson => exact absurd hjson hnot

theorem Effect.of_no_output (h : Effect files settings arguments after outcome)
    (hjson : EndsInJson arguments outcome.ending) (houtput : arguments.output = none) :
    ∃ report text, Passes files settings arguments report text ∧ after = files ∧
      outcome.printed = text ++ "\n" := by
  cases h with
  | nothing _ hnot => exact absurd hjson hnot
  | printed _ hpass _ hprinted => exact ⟨_, _, hpass, rfl, hprinted⟩
  | written _ _ hsome => exact nomatch houtput.symm.trans hsome

theorem Effect.of_output {path : String} (h : Effect files settings arguments after outcome)
    (hjson : EndsInJson arguments outcome.ending) (houtput : arguments.output = some path) :
    ∃ report text, Passes files settings arguments report text ∧
      files.write (Path.normalize path) (Text.encodeUtf8 text.toList) = .ok after ∧
      outcome.printed = "" := by
  cases h with
  | nothing _ hnot => exact absurd hjson hnot
  | printed _ _ hnone => exact nomatch hnone.symm.trans houtput
  | written _ hpass hsome hwrite hprinted =>
      cases houtput.symm.trans hsome
      exact ⟨_, _, hpass, hwrite, hprinted⟩

end Cases

/-! ## One function after the other -/

/-- The log does not count. -/
theorem Effect.logged {after : Files} {outcome : Outcome}
    (h : Effect files settings arguments after outcome) (log : List LogEntry) :
    Effect files settings arguments after { outcome with log } := by
  cases h with
  | nothing hprinted hnot => exact .nothing hprinted hnot
  | printed hjson hpass houtput hprinted => exact .printed hjson hpass houtput hprinted
  | written hjson hpass houtput hwrite hprinted =>
      exact .written hjson hpass houtput hwrite hprinted

theorem publish_effect {report : Report} (hnamed : nameRules settings.rules = true)
    (hpass : (Pass.run files settings arguments.path).outcome.1 = .ok report)
    (hlist : arguments.listRules = false) :
    Effect files settings arguments (publish files settings arguments report).1
      (publish files settings arguments report).2 := by
  rw [publish]
  cases hformat : arguments.format with
  | console =>
      refine .nothing rfl fun hjson => ?_
      rw [hjson.format_eq] at hformat
      cases hformat
  | json =>
      cases htext : report.toJsonString? true with
      | none => exact .nothing rfl (not_endsInJson_of_status rfl Nat.one_ne_zero)
      | some text =>
          cases houtput : arguments.output with
          | none => exact .printed ⟨hformat, hlist, rfl⟩ ⟨hnamed, hpass, htext⟩ houtput rfl
          | some path =>
              -- a path that cannot be written ends the run before anything is changed
              dsimp only
              split
              · rename_i after hwrite
                exact .written ⟨hformat, hlist, rfl⟩ ⟨hnamed, hpass, htext⟩ houtput hwrite rfl
              · exact .nothing rfl (not_endsInJson_of_status rfl Nat.one_ne_zero)

theorem runRules_effect (hnamed : nameRules settings.rules = true)
    (hlist : arguments.listRules = false) :
    Effect files settings arguments (runRules files settings arguments).1
      (runRules files settings arguments).2 := by
  rw [runRules]
  rcases hpass : (Pass.run files settings arguments.path).outcome with ⟨cause | report, log⟩
  · exact .nothing (passFailure_printed cause)
      (not_endsInJson_of_status (passFailure_status cause) Nat.one_ne_zero)
  · exact (publish_effect hnamed (congrArg Prod.fst hpass) hlist).logged log

theorem perform_effect (files : Files) (settings : Settings) (arguments : Arguments) :
    Effect files settings arguments (perform files settings arguments).1
      (perform files settings arguments).2 := by
  rw [perform]
  split
  · exact .nothing rfl (not_endsInJson_of_status rfl (Nat.succ_ne_zero 1))
  · rename_i hnamed
    split
    · rename_i hlist
      -- rules are listed on the console, also if a report as JSON is asked for
      refine .nothing (listRules_printed files settings) fun hjson => ?_
      rw [hjson.not_listed] at hlist
      cases hlist
    · rename_i hlist
      exact runRules_effect (by simpa using hnamed) (by simpa using hlist)

/-- A report that is made is published. -/
theorem perform_of_passes {report : Report} {text : String}
    (hpass : Passes files settings arguments report text) (hlist : arguments.listRules = false) :
    ∃ log, perform files settings arguments =
      ((publish files settings arguments report).1,
        { (publish files settings arguments report).2 with log }) := by
  obtain ⟨hnamed, hpassed, -⟩ := hpass
  rcases houtcome : (Pass.run files settings arguments.path).outcome with ⟨passed, log⟩
  rw [houtcome] at hpassed
  cases hpassed
  refine ⟨log, ?_⟩
  rw [perform, hnamed, hlist, runRules, houtcome]
  rfl

/-- A report with a JSON text can be published if it goes to no file or to a path that can be
written. -/
theorem publish_status (settings : Settings) {report : Report} {text : String}
    (htext : report.toJsonString? true = some text) (hformat : arguments.format = .json)
    (houtput : ∀ path, arguments.output = some path →
      ∃ location, files.LeadsTo (Path.normalize path) location) :
    (publish files settings arguments report).2.ending.status = 0 := by
  rw [publish, hformat]
  dsimp only
  rw [htext]
  cases hpath : arguments.output with
  | none => rfl
  | some path =>
      obtain ⟨location, hleads⟩ := houtput path hpath
      dsimp only
      rw [hleads.write_eq]
      rfl

namespace Session

/-- The run of a line is one for these arguments, ends well, and reports as JSON. -/
structure ReportsJson (session : Session) (line : List String) (arguments : Arguments) : Prop where
  request_eq : request session.files line = .ok (.run arguments)
  ends : EndsInJson arguments (session.run line).2.ending

/-- With its settings adjusted to the arguments, the session makes the report of its files, which
has the text. -/
def Makes (session : Session) (arguments : Arguments) (report : Report) (text : String) : Prop :=
  ∃ base, session.base = .ok base ∧
    Passes session.files (arguments.adjust base) arguments report text

variable {session : Session} {line : List String} {base : Settings}

/-! ## Runs -/

theorem run_effect (hbase : session.base = .ok base)
    (hrequest : request session.files line = .ok (.run arguments)) :
    Effect session.files (arguments.adjust base) arguments (session.run line).1.files
      (session.run line).2 := by
  rw [run_of_request hbase hrequest]
  exact (perform_effect session.files (arguments.adjust base) arguments).logged _

/-- A line that is refused or asks for help prints nothing. -/
theorem printed_of_not_request
    (h : ∀ arguments, request session.files line ≠ .ok (.run arguments)) :
    (session.run line).2.printed = "" := by
  rw [run]
  cases hrequest : request session.files line with
  | error cause => cases cause <;> rfl
  | ok asked =>
      cases asked with
      | help => rfl
      | run arguments => exact absurd hrequest (h arguments)

/-- If no settings can be made, the run breaks off at once. -/
theorem run_of_no_base {cause : SettingsError} (hbase : session.base = .error cause)
    (hrequest : request session.files line = .ok (.run arguments)) :
    session.run line = (session, .silent (.aborted (.settings cause))) := by
  simp only [run, hrequest, runRequest, hbase]

theorem run_of_not_reportsJson (h : ∀ arguments, ¬ session.ReportsJson line arguments) :
    (session.run line).1.files = session.files ∧ (session.run line).2.printed = "" := by
  rcases asksForRun_or session.files line with ⟨arguments, hrequest⟩ | hrefused
  · cases hbase : session.base with
    | error cause => rw [run_of_no_base hbase hrequest]; exact ⟨rfl, rfl⟩
    | ok base =>
        exact (run_effect hbase hrequest).of_not_endsInJson fun hends =>
          h arguments ⟨hrequest, hends⟩
  · exact ⟨congrArg Session.files (run_of_not_request hrefused), printed_of_not_request hrefused⟩

theorem ReportsJson.exists_base (h : session.ReportsJson line arguments) :
    ∃ base, session.base = .ok base := by
  cases hbase : session.base with
  | ok base => exact ⟨base, rfl⟩
  | error cause =>
      have hstatus := h.ends.status_eq
      rw [run_of_no_base hbase h.request_eq] at hstatus
      cases hstatus

/-- A report into a file changes that file alone. -/
theorem ReportsJson.exists_rewrites {path : String} (h : session.ReportsJson line arguments)
    (houtput : arguments.output = some path) :
    ∃ report text location, session.Makes arguments report text ∧
      session.files.LeadsTo (Path.normalize path) location ∧
      session.files.Rewrites (session.run line).1.files location
        (Text.encodeUtf8 text.toList) ∧
      (session.run line).2.printed = "" := by
  obtain ⟨base, hbase⟩ := h.exists_base
  obtain ⟨report, text, hpass, hwrite, hprinted⟩ :=
    (run_effect hbase h.request_eq).of_output h.ends houtput
  obtain ⟨location, hleads, hrewrites⟩ := Files.rewrites_of_write hwrite
  exact ⟨report, text, location, ⟨base, hbase, hpass⟩, hleads, hrewrites, hprinted⟩

/-- A report without a file is printed. -/
theorem ReportsJson.exists_printed (h : session.ReportsJson line arguments)
    (houtput : arguments.output = none) :
    ∃ report text, session.Makes arguments report text ∧
      (session.run line).1.files = session.files ∧
      (session.run line).2.printed = text ++ "\n" := by
  obtain ⟨base, hbase⟩ := h.exists_base
  obtain ⟨report, text, hpass, hfiles, hprinted⟩ :=
    (run_effect hbase h.request_eq).of_no_output h.ends houtput
  exact ⟨report, text, ⟨base, hbase, hpass⟩, hfiles, hprinted⟩

theorem Makes.unique {report other : Report} {text text' : String}
    (h : session.Makes arguments report text) (hother : session.Makes arguments other text') :
    report = other ∧ text = text' := by
  obtain ⟨base, hbase, hpass⟩ := h
  obtain ⟨base', hbase', hpass'⟩ := hother
  cases hbase.symm.trans hbase'
  cases hpass.passed.symm.trans hpass'.passed
  exact ⟨rfl, Option.some.inj (hpass.text_eq.symm.trans hpass'.text_eq)⟩

/-- A run that asks for a report as JSON ends well if the report can be made and published. -/
theorem reportsJson_of_makes {report : Report} {text : String}
    (hmakes : session.Makes arguments report text)
    (hrequest : request session.files line = .ok (.run arguments))
    (hformat : arguments.format = .json) (hlist : arguments.listRules = false)
    (houtput : ∀ path, arguments.output = some path →
      ∃ location, session.files.LeadsTo (Path.normalize path) location) :
    session.ReportsJson line arguments := by
  obtain ⟨base, hbase, hpass⟩ := hmakes
  obtain ⟨log, hperform⟩ := perform_of_passes hpass hlist
  refine ⟨hrequest, hformat, hlist, ?_⟩
  rw [run_of_request hbase hrequest, hperform]
  exact publish_status _ hpass.text_eq hformat houtput

/-- Without its output, a line prints the report that it makes. -/
theorem run_without_output {report : Report} {text : String}
    (hmakes : session.Makes arguments report text) (h : session.ReportsJson line arguments) :
    (session.run (without .output line)).1.files = session.files ∧
      (session.run (without .output line)).2.printed = text ++ "\n" ∧
      session.ReportsJson (without .output line) { arguments with output := none } := by
  -- the output says nothing of the settings, the rules or the document
  have hsame : session.Makes { arguments with output := none } report text := by
    obtain ⟨base, hbase, hpass⟩ := hmakes
    exact ⟨base, hbase, hpass.named, hpass.passed, hpass.text_eq⟩
  have hreports : session.ReportsJson (without .output line) { arguments with output := none } :=
    reportsJson_of_makes hsame (request_without_output h.request_eq) h.ends.format_eq
      h.ends.not_listed fun path hpath => nomatch hpath
  obtain ⟨_, printed, hprinted, hfiles, hshown⟩ := hreports.exists_printed rfl
  obtain ⟨-, rfl⟩ := hprinted.unique hsame
  exact ⟨hfiles, hshown, hreports⟩

/-- What a run changes and prints. If it ends well and reports as JSON into a file, that file alone
changes and holds the report of a pass over the files as they were before, whichever file it is; the
line without the output then prints this report. If it ends well and reports as JSON without a file,
it prints the report and changes nothing. In all other cases, for a line that is refused or asks for
help, a run without rules, a failure at any point, a list of rules, and a report on the console, it
changes nothing and prints nothing. What is printed is apart from what is given to the console and
from the entries of the log, which go to standard output too if the level of the log lets them. -/
theorem run_writes (session : Session) (line : List String) :
    (∀ arguments path, session.ReportsJson line arguments → arguments.output = some path →
      ∃ report text location, session.Makes arguments report text ∧
        session.files.LeadsTo (Path.normalize path) location ∧
        session.files.Rewrites (session.run line).1.files location
          (Text.encodeUtf8 text.toList) ∧
        (session.run line).2.printed = "" ∧
        (session.run (without .output line)).1.files = session.files ∧
        (session.run (without .output line)).2.printed = text ++ "\n" ∧
        session.ReportsJson (without .output line) { arguments with output := none }) ∧
    (∀ arguments, session.ReportsJson line arguments → arguments.output = none →
      ∃ report text, session.Makes arguments report text ∧
        (session.run line).1.files = session.files ∧
        (session.run line).2.printed = text ++ "\n") ∧
    ((∀ arguments, ¬ session.ReportsJson line arguments) →
      (session.run line).1.files = session.files ∧ (session.run line).2.printed = "") := by
  refine ⟨fun arguments path h houtput => ?_, fun arguments h houtput => h.exists_printed houtput,
    run_of_not_reportsJson⟩
  obtain ⟨report, text, location, hmakes, hleads, hrewrites, hprinted⟩ := h.exists_rewrites houtput
  exact ⟨report, text, location, hmakes, hleads, hrewrites, hprinted, run_without_output hmakes h⟩

/-- A session with a document. -/
def documentSession : Session := .start [] ⟨[], [], [([['a']], "<a/>".toUTF8.data.toList)]⟩

/-- A command line that reports into the document itself. -/
def overwritingLine : List String :=
  ["a", "--rule", "element:0:a", "--format", "JSON", "-o", "./a"]

/-- What this line asks for. -/
def overwritingArguments : Arguments :=
  ⟨"a", none, none, ["element:0:a"], .json, some "./a", false, .warning⟩

/-- The report on the document. -/
def documentReport : Report :=
  ⟨some "a", 0, 1, [⟨"element:0:a", "element", 0, "a", .attributes []⟩]⟩

/-- The report on a document can replace it. -/
theorem run_writes_document : ∃ text,
    documentReport.toJsonString? true = some text ∧
    documentSession.ReportsJson overwritingLine overwritingArguments ∧
    (documentSession.run overwritingLine).1.files.read "a" =
      .ok (Text.encodeUtf8 text.toList) ∧
    without .output overwritingLine = ["a", "--rule", "element:0:a", "--format", "JSON"] ∧
    (documentSession.run ["a", "--rule", "element:0:a", "--format", "JSON"]).2.printed =
      text ++ "\n" := by
  have hbase : documentSession.base = .ok Settings.standard := by cbv
  have hdocument : (Pass.run documentSession.files (overwritingArguments.adjust Settings.standard)
      overwritingArguments.path).outcome.1 = .ok documentReport := by cbv
  obtain ⟨text, htext⟩ : ∃ text, documentReport.toJsonString? true = some text := ⟨_, rfl⟩
  have hmakes : documentSession.Makes overwritingArguments documentReport text :=
    ⟨_, hbase, by cbv, hdocument, htext⟩
  have hleads : documentSession.files.LeadsTo (Path.normalize "./a") [['a']] := by cbv
  have hreports : documentSession.ReportsJson overwritingLine overwritingArguments := by
    refine reportsJson_of_makes hmakes (by cbv) rfl rfl ?_
    rintro path ⟨⟩
    exact ⟨_, hleads⟩
  have hwithout :
      without .output overwritingLine = ["a", "--rule", "element:0:a", "--format", "JSON"] := by cbv
  obtain ⟨hwritten, -, -⟩ := run_writes documentSession overwritingLine
  obtain ⟨report, written, location, hreport, hlocation, hrewrites, -, -, hprinted, -⟩ :=
    hwritten overwritingArguments "./a" hreports rfl
  obtain ⟨rfl, rfl⟩ := hreport.unique hmakes
  have hpath : Path.normalize "./a" = "a" := by cbv
  rw [hpath] at hlocation
  rw [hwithout] at hprinted
  exact ⟨written, htext, hreports, hrewrites.read_eq "a" hlocation, hwithout, hprinted⟩

/-! ## Sessions -/

/-- No run of the session reports into the file at a location. -/
def Spares (session : Session) (location : Location) : List (List String) → Prop
  | [] => True
  | line :: rest =>
      (∀ arguments path, session.ReportsJson line arguments → arguments.output = some path →
        ¬ session.files.LeadsTo (Path.normalize path) location) ∧
      (session.run line).1.Spares location rest

theorem content?_run {location : Location}
    (h : ∀ arguments path, session.ReportsJson line arguments → arguments.output = some path →
      ¬ session.files.LeadsTo (Path.normalize path) location) :
    (session.run line).1.files.content? location = session.files.content? location := by
  by_cases hreports : ∃ arguments, session.ReportsJson line arguments
  · obtain ⟨arguments, hreports⟩ := hreports
    cases houtput : arguments.output with
    | none =>
        obtain ⟨-, -, -, hfiles, -⟩ := hreports.exists_printed houtput
        rw [hfiles]
    | some path =>
        -- the file that is written is another one
        obtain ⟨report, text, written, -, hleads, hrewrites, -⟩ := hreports.exists_rewrites houtput
        apply hrewrites.content_of_ne
        rintro rfl
        exact h arguments path hreports houtput hleads
  · have hnone := run_of_not_reportsJson fun arguments h => hreports ⟨arguments, h⟩
    rw [hnone.1]

/-- Through all runs of a session a file stays as it is unless one of them reports into it. -/
theorem content?_runAll {location : Location} {lines : List (List String)}
    (h : session.Spares location lines) :
    (session.runAll lines).1.files.content? location = session.files.content? location := by
  induction lines generalizing session with
  | nil => rfl
  | cons line rest ih =>
      obtain ⟨hline, hrest⟩ := h
      rw [runAll_cons]
      exact (ih hrest).trans (content?_run hline)

end Session

end DepthRules.CommandLine
