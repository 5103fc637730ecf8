import DepthRules.CommandLine.Session
import DepthRules.Console.Plain
import DepthRules.Proofs.Console.Terminal
import DepthRules.Proofs.Pass

/-!
# How runs end

Once its settings are made, a run has five ways to end, each with its own status and its own lines
on the console (`Way`). Which way is due depends on the settings, the rules and the document alone,
and it is always exactly one (`existsUnique_due`). The run takes the way that is due, with three
exceptions (`Session.run_outcome`). Rules that cannot be loaded are announced as such only if a rule
or a rulesets file is refused or a file is missing; for all other causes the run breaks off or shows
the bare complaint. A report with a number that is too long has no JSON text, and the run breaks
off. So it does where the terminal refuses what it is given, as it does the markup of a rule, of a
path or of a name that is put in as it stands and closes a style that is not open.
-/

namespace DepthRules

namespace Pass

variable {files : Files} {settings : Settings} {path : String}

/-- A pass fails with the document. -/
theorem run_gives_unreadable {cause : DocumentError}
    (hdoc : Document.fileRoot files settings.parse path = .error cause) :
    (run files settings path).Gives (.error (.document cause)) := by
  have hread : (part PassError.document
      (Document.load files settings.parse (Path.normalize path))).Gives
        (.error (.document cause)) := by
    have hadapt := (Document.load_gives files settings.parse (Path.normalize path)).adapt
      PassError.document
    rwa [Document.fileRoot_normalize, hdoc] at hadapt
  exact (Task.gives_log _ _ _).next hread.stop

/-- A pass over a document that can be read fails with the rules. -/
theorem run_gives_unloaded {root : Node} {cause : LoadError}
    (hdoc : Document.fileRoot files settings.parse path = .ok root)
    (hload : Rule.loadedRules files settings.rules = .error cause) :
    (run files settings path).Gives (.error (.load cause)) := by
  have hread : (part PassError.document
      (Document.load files settings.parse (Path.normalize path))).Gives (.ok root) := by
    have hadapt := (Document.load_gives files settings.parse (Path.normalize path)).adapt
      PassError.document
    rwa [Document.fileRoot_normalize, hdoc] at hadapt
  have hloaded : (part PassError.load (Rule.load files settings.rules)).Gives
      (.error (.load cause)) := by
    have hadapt := (Rule.load_gives files settings.rules).adapt PassError.load
    rwa [hload] at hadapt
  have hprepare : (prepare files settings.rules).Gives (.error (.load cause)) :=
    (Task.gives_log _ _ _).next hloaded.stop
  exact (Task.gives_log _ _ _).next (hread.next hprepare.stop)

end Pass

namespace CommandLine

/-- A way in which a run that has its settings can end. -/
inductive Way where
  | noRules
  | rulesFailed (cause : LoadError)
  | documentFailed (cause : DocumentError)
  | listed (declarations : List Declaration)
  | reported (report : Report)

/-- The settings name a rules file or hold rules. -/
def Named (settings : RulesSettings) : Prop :=
  (∃ file, settings.rulesFile = some file ∧ file ≠ "") ∨ settings.rules ≠ []

/-- When a way of a run is due. The document counts only if there are rules to run over it. -/
inductive Due (files : Files) (settings : Settings) (arguments : Arguments) : Way → Prop where
  | noRules (hnamed : ¬ Named settings.rules) : Due files settings arguments .noRules
  | rulesFailed {cause : LoadError} (hnamed : Named settings.rules)
      (hload : Rule.loadedRules files settings.rules = .error cause)
      (hdoc : arguments.listRules = true ∨
        ∃ root, Document.fileRoot files settings.parse arguments.path = .ok root) :
      Due files settings arguments (.rulesFailed cause)
  | documentFailed {cause : DocumentError} (hnamed : Named settings.rules)
      (hlist : arguments.listRules = false)
      (hdoc : Document.fileRoot files settings.parse arguments.path = .error cause) :
      Due files settings arguments (.documentFailed cause)
  | listed {declarations : List Declaration} (hnamed : Named settings.rules)
      (hlist : arguments.listRules = true)
      (hload : Rule.loadedRules files settings.rules = .ok declarations) :
      Due files settings arguments (.listed declarations)
  | reported {declarations : List Declaration} {root : Node} {depth : Nat}
      (hnamed : Named settings.rules) (hlist : arguments.listRules = false)
      (hdoc : Document.fileRoot files settings.parse arguments.path = .ok root)
      (hload : Rule.loadedRules files settings.rules = .ok declarations)
      (hdepth : Pass.IsGreatestDepth declarations depth) :
      Due files settings arguments (.reported ⟨some (Path.normalize arguments.path), depth,
        declarations.length, Pass.matchesIn declarations root⟩)

/-- The status for a way. -/
def Way.status : Way → Nat
  | .noRules => 2
  | .rulesFailed _ => 1
  | .documentFailed _ => 1
  | .listed _ => 0
  | .reported _ => 0

/-- How a run ends in a way. -/
def Way.ending : Way → Ending
  | .noRules => .noRules
  | .rulesFailed _ => .failed
  | .documentFailed _ => .failed
  | .listed _ => .listed
  | .reported _ => .finished

/-- What the console is given in a way. -/
def Way.display (settings : Settings) (format : ReportFormat) : Way → Console.Display
  | .noRules => .noRules
  | .rulesFailed cause => .notLoaded cause.message
  | .documentFailed cause => .failed cause.message
  | .listed declarations => .rules declarations
  | .reported report =>
      match format with
      | .console => .report settings.output.maxValueLength report
      | .json => .nothing

/-- What is printed in a way, unless this is a report that has no JSON text. -/
def Way.printed? (format : ReportFormat) : Way → Option String
  | .reported report =>
      match format with
      | .console => some ""
      | .json => (report.toJsonString? true).map (· ++ "\n")
  | _ => some ""

/-- What is shown in a way, without a log. -/
def Way.outcome? (settings : Settings) (format : ReportFormat) (way : Way) : Option Outcome :=
  (way.printed? format).map fun printed =>
    ⟨way.ending, (way.display settings format).items, printed, []⟩

/-- An outcome without its log. -/
def Outcome.unlogged (outcome : Outcome) : Outcome := { outcome with log := [] }

end CommandLine

/-- The causes for which it is announced that rules cannot be loaded. -/
def LoadError.Announced : LoadError → Prop
  | .rules _ => True
  | .access (.missing _) => True
  | _ => False

namespace CommandLine

/-- A failure to load the rules is announced as such; all other ways have nothing to announce. -/
def Way.Announced : Way → Prop
  | .rulesFailed cause => cause.Announced
  | _ => True

/-- How a run on a terminal ends if a way is due. -/
structure Way.Ends (terminal : Console.Terminal) (settings : Settings) (format : ReportFormat)
    (way : Way) (outcome : Outcome) : Prop where
  /-- It shows what belongs to the way just if this is announced and can be printed and shown. -/
  shown_iff : way.outcome? settings format = some outcome ↔
    way.Announced ∧ (way.printed? format).isSome ∧
      terminal.Shows (way.display settings format).items
  status_of_shown : way.outcome? settings format = some outcome →
    outcome.ending.status = way.status
  status_of_not_shown : way.outcome? settings format ≠ some outcome → outcome.ending.status = 1
  /-- If rules cannot be loaded for a cause that is not announced, it breaks off or complains. -/
  unannounced : ∀ cause, way = .rulesFailed cause → ¬ cause.Announced →
    outcome = .silent (.aborted (.load cause)) ∨
      outcome = (Outcome.shown .failed [Console.failed cause.message]).on terminal
  /-- It breaks off if a report cannot be printed. -/
  unprinted : way.printed? format = none → outcome = .silent (.aborted .longNumber)
  /-- What the terminal refuses is not shown, nor what comes after it. -/
  refused : way.Announced → ∀ due, way.outcome? settings format = some due →
    ∀ before item fault, terminal.Refuses due.console before item fault →
      outcome = due.refused terminal before item fault
  /-- A terminal whose stream does not fail refuses nothing but texts that need an escape. -/
  shows_of_isQuiet : terminal.IsQuiet →
    (∀ s ∈ (way.display settings format).unescaped, Console.escape s = s) →
      terminal.Shows (way.display settings format).items

/-! ## The way that is due -/

theorem nameRules_eq_true_iff {settings : RulesSettings} :
    nameRules settings = true ↔ Named settings := by
  simp [nameRules, Named, Option.any_eq_true]

variable {files : Files} {settings : Settings} {arguments : Arguments}

theorem greatestDepth_unique {declarations : List Declaration} {depth other : Nat}
    (h : Pass.IsGreatestDepth declarations depth)
    (hother : Pass.IsGreatestDepth declarations other) : depth = other := by
  obtain ⟨hle, ⟨hnil, rfl⟩ | ⟨d, hd, hdepth⟩⟩ := h
  · obtain ⟨-, ⟨-, rfl⟩ | ⟨d, hd, -⟩⟩ := hother
    · rfl
    · rw [hnil] at hd
      cases hd
  · obtain ⟨hle', ⟨hnil, -⟩ | ⟨d', hd', hdepth'⟩⟩ := hother
    · rw [hnil] at hd
      cases hd
    · have hfirst := hle d' hd'
      have hsecond := hle' d hd
      omega

/-- No two ways are due. -/
theorem Due.unique {way other : Way} (h : Due files settings arguments way)
    (hother : Due files settings arguments other) : way = other := by
  cases h with
  | noRules hnamed =>
      cases hother with
      | noRules => rfl
      | _ => exact absurd ‹Named settings.rules› hnamed
  | rulesFailed hnamed hload hdoc =>
      cases hother with
      | noRules hnot => exact absurd hnamed hnot
      | rulesFailed _ hload' _ =>
          cases hload.symm.trans hload'
          rfl
      | documentFailed _ hlist hdoc' =>
          rcases hdoc with hlist' | ⟨root, hdoc⟩
          · exact absurd (hlist.symm.trans hlist') Bool.false_ne_true
          · cases hdoc.symm.trans hdoc'
      | listed _ _ hload' => cases hload.symm.trans hload'
      | reported _ _ _ hload' _ => cases hload.symm.trans hload'
  | documentFailed hnamed hlist hdoc =>
      cases hother with
      | noRules hnot => exact absurd hnamed hnot
      | rulesFailed _ _ hdoc' =>
          rcases hdoc' with hlist' | ⟨root, hdoc'⟩
          · exact absurd (hlist.symm.trans hlist') Bool.false_ne_true
          · cases hdoc.symm.trans hdoc'
      | documentFailed _ _ hdoc' =>
          cases hdoc.symm.trans hdoc'
          rfl
      | listed _ hlist' _ => exact absurd (hlist.symm.trans hlist') Bool.false_ne_true
      | reported _ _ hdoc' _ _ => cases hdoc.symm.trans hdoc'
  | listed hnamed hlist hload =>
      cases hother with
      | noRules hnot => exact absurd hnamed hnot
      | rulesFailed _ hload' _ => cases hload.symm.trans hload'
      | documentFailed _ hlist' _ => exact absurd (hlist'.symm.trans hlist) Bool.false_ne_true
      | listed _ _ hload' =>
          cases hload.symm.trans hload'
          rfl
      | reported _ hlist' _ _ _ => exact absurd (hlist'.symm.trans hlist) Bool.false_ne_true
  | reported hnamed hlist hdoc hload hdepth =>
      cases hother with
      | noRules hnot => exact absurd hnamed hnot
      | rulesFailed _ hload' _ => cases hload.symm.trans hload'
      | documentFailed _ _ hdoc' => cases hdoc.symm.trans hdoc'
      | listed _ hlist' _ => exact absurd (hlist.symm.trans hlist') Bool.false_ne_true
      | reported _ _ hdoc' hload' hdepth' =>
          cases hdoc.symm.trans hdoc'
          cases hload.symm.trans hload'
          rw [greatestDepth_unique hdepth hdepth']

/-- Some way is due. -/
theorem exists_due (files : Files) (settings : Settings) (arguments : Arguments) :
    ∃ way, Due files settings arguments way := by
  by_cases hnamed : Named settings.rules
  · cases hload : Rule.loadedRules files settings.rules with
    | error cause =>
        by_cases hlist : arguments.listRules = true
        · exact ⟨_, .rulesFailed hnamed hload (.inl hlist)⟩
        · cases hdoc : Document.fileRoot files settings.parse arguments.path with
          | error fault => exact ⟨_, .documentFailed hnamed (Bool.not_eq_true _ ▸ hlist) hdoc⟩
          | ok root => exact ⟨_, .rulesFailed hnamed hload (.inr ⟨root, hdoc⟩)⟩
    | ok declarations =>
        by_cases hlist : arguments.listRules = true
        · exact ⟨_, .listed hnamed hlist hload⟩
        · cases hdoc : Document.fileRoot files settings.parse arguments.path with
          | error fault => exact ⟨_, .documentFailed hnamed (Bool.not_eq_true _ ▸ hlist) hdoc⟩
          | ok root =>
              obtain ⟨depth, -, hdepth⟩ := Pass.exists_greatestDepth
                (Rule.ensures_loadedRules files settings.rules declarations hload)
              exact ⟨_, .reported hnamed (Bool.not_eq_true _ ▸ hlist) hdoc hload hdepth⟩
  · exact ⟨_, .noRules hnamed⟩

/-- Exactly one way is due. -/
theorem existsUnique_due (files : Files) (settings : Settings) (arguments : Arguments) :
    ∃! way, Due files settings arguments way := by
  obtain ⟨way, h⟩ := exists_due files settings arguments
  exact ⟨way, h, fun other hother => hother.unique h⟩

/-! ## What is shown of a failure -/

theorem failed_ne_notLoaded (message : Str) :
    Console.failed message ≠ Console.notLoaded message := by
  intro h
  rw [Console.failed, Console.notLoaded, Console.complaint, Console.complaint,
    Console.Item.line.injEq] at h
  have hlength := congrArg List.length (List.append_cancel_left h)
  have hwords : ("Failed to load rules: " : Str).length = 22 := rfl
  rw [List.length_append] at hlength
  omega

/-- How a run ends if its rules cannot be loaded: it announces this, breaks off, or only
complains. -/
theorem loadFailure_cases (cause : LoadError) :
    cause.Announced ∧ loadFailure cause = .shown .failed [Console.notLoaded cause.message] ∨
    ¬ cause.Announced ∧ (loadFailure cause = .silent (.aborted (.load cause)) ∨
      loadFailure cause = .shown .failed [Console.failed cause.message]) := by
  cases cause with
  | access fault =>
      cases fault with
      | missing path => exact .inl ⟨trivial, rfl⟩
      | nullCharacter => exact .inr ⟨id, .inr rfl⟩
      | isDirectory path => exact .inr ⟨id, .inl rfl⟩
      | notDirectory path => exact .inr ⟨id, .inl rfl⟩
      | tooLong path => exact .inr ⟨id, .inl rfl⟩
  | encoding fault => exact .inr ⟨id, .inr rfl⟩
  | rules fault => exact .inl ⟨trivial, rfl⟩
  | scalar fault =>
      refine .inr ⟨id, ?_⟩
      rw [loadFailure]
      by_cases htold : isTold fault = true
      · exact .inr (if_pos htold)
      · exact .inl (if_neg htold)
  | untold fault => exact .inr ⟨id, .inr rfl⟩

theorem loadFailure_status (cause : LoadError) : (loadFailure cause).ending.status = 1 := by
  rcases loadFailure_cases cause with ⟨-, h⟩ | ⟨-, h | h⟩ <;> rw [h] <;> rfl

/-! ## What a run gives to the console -/

/-- What a run gives out in a way: for a failure to load rules it depends on the cause. -/
def Way.given (settings : Settings) (format : ReportFormat) : Way → Outcome
  | .rulesFailed cause => loadFailure cause
  | way => (way.outcome? settings format).getD (.silent (.aborted .longNumber))

theorem Way.given_reported (settings : Settings) (format : ReportFormat) (report : Report) :
    (Way.reported report).given settings format =
      ((Way.reported report).outcome? settings format).getD (.silent (.aborted .longNumber)) := rfl

theorem unlogged_loadFailure (cause : LoadError) :
    (loadFailure cause).unlogged = loadFailure cause := by
  rcases loadFailure_cases cause with ⟨-, h⟩ | ⟨-, h | h⟩ <;> rw [h] <;> rfl

theorem unlogged_given (settings : Settings) (format : ReportFormat) (way : Way) :
    (way.given settings format).unlogged = way.given settings format := by
  cases way with
  | rulesFailed cause => exact unlogged_loadFailure cause
  | reported report =>
      rw [Way.given_reported, Way.outcome?]
      cases (Way.reported report).printed? format <;> rfl
  | _ => rfl

theorem unlogged_listRules (files : Files) (settings : Settings) :
    (listRules files settings).unlogged =
      match Rule.loadedRules files settings.rules with
      | .ok declarations => .shown .listed (Console.ruleList declarations)
      | .error cause => loadFailure cause := by
  have hload := (Rule.load_gives files settings.rules).outcome
  rw [listRules]
  rcases houtcome : (Rule.load files settings.rules).outcome with ⟨loaded, log⟩
  rw [houtcome] at hload
  rw [← hload]
  cases loaded with
  | ok declarations => rfl
  | error cause => exact unlogged_loadFailure cause

theorem publish_of_no_output (files : Files) (houtput : arguments.output = none)
    (report : Report) :
    (publish files settings arguments report).2 =
      (Way.reported report).given settings arguments.format := by
  cases hformat : arguments.format with
  | console => simp only [publish, hformat]; rfl
  | json =>
      simp only [publish, hformat, houtput, Way.given, Way.outcome?, Way.printed?]
      cases report.toJsonString? true <;> rfl

/-- What is shown of a pass. -/
def passShown (settings : Settings) (format : ReportFormat) : Except PassError Report → Outcome
  | .ok report => (Way.reported report).given settings format
  | .error cause => passFailure cause

/-- Running the rules shows what the pass comes to. -/
theorem unlogged_runRules (houtput : arguments.output = none) {result : Except PassError Report}
    (hrun : (Pass.run files settings arguments.path).Gives result) :
    (runRules files settings arguments).2.unlogged =
      (passShown settings arguments.format result).unlogged := by
  have hpass := hrun.outcome
  rw [runRules]
  rcases houtcome : (Pass.run files settings arguments.path).outcome with ⟨passed, log⟩
  rw [houtcome] at hpass
  rw [← hpass]
  cases passed with
  | error cause => rfl
  | ok report =>
      dsimp only [passShown]
      rw [← publish_of_no_output files houtput report]
      rfl

theorem perform_of_listRules (hnamed : Named settings.rules) (hlist : arguments.listRules = true) :
    (perform files settings arguments).2 = listRules files settings := by
  simp only [perform, nameRules_eq_true_iff.2 hnamed, hlist, Bool.not_true, Bool.false_eq_true,
    if_false, if_true]

theorem perform_of_not_listRules (hnamed : Named settings.rules)
    (hlist : arguments.listRules = false) :
    (perform files settings arguments).2 = (runRules files settings arguments).2 := by
  simp only [perform, nameRules_eq_true_iff.2 hnamed, hlist, Bool.not_true, Bool.false_eq_true,
    if_false]

/-- A run of settings shows what belongs to the way that is due. -/
theorem perform_of_due (houtput : arguments.output = none) {way : Way}
    (h : Due files settings arguments way) :
    (perform files settings arguments).2.unlogged = way.given settings arguments.format := by
  cases h with
  | noRules hnamed =>
      have hnone : nameRules settings.rules = false :=
        Bool.eq_false_iff.2 fun h => hnamed (nameRules_eq_true_iff.1 h)
      rw [perform, hnone]
      rfl
  | rulesFailed hnamed hload hdoc =>
      cases hlist : arguments.listRules with
      | true =>
          rw [perform_of_listRules hnamed hlist, unlogged_listRules, hload]
          rfl
      | false =>
          -- the document is read before the rules are loaded, and has to be fine
          obtain ⟨root, hdoc⟩ := hdoc.resolve_left (Bool.eq_false_iff.1 hlist)
          rw [perform_of_not_listRules hnamed hlist,
            unlogged_runRules houtput (Pass.run_gives_unloaded hdoc hload)]
          exact unlogged_loadFailure _
  | documentFailed hnamed hlist hdoc =>
      rw [perform_of_not_listRules hnamed hlist,
        unlogged_runRules houtput (Pass.run_gives_unreadable hdoc)]
      rfl
  | listed hnamed hlist hload =>
      rw [perform_of_listRules hnamed hlist, unlogged_listRules, hload]
      rfl
  | reported hnamed hlist hdoc hload hdepth =>
      obtain ⟨depth, hdeepest, hgreatest⟩ := Pass.exists_greatestDepth
        (Rule.ensures_loadedRules files settings.rules _ hload)
      rw [greatestDepth_unique hdepth hgreatest, perform_of_not_listRules hnamed hlist,
        unlogged_runRules houtput (Pass.run_gives hdoc hload hdeepest)]
      exact unlogged_given _ _ _

theorem run_unlogged {session : Session} {line : List String} {base : Settings}
    (hbase : session.base = .ok base)
    (hrequest : request session.files line = .ok (.run arguments)) :
    (session.run line).2.unlogged =
      (perform session.files (arguments.adjust base) arguments).2.unlogged := by
  simp only [Session.run, hrequest, Session.runRequest, hbase]
  rfl

/-! ## Runs on a terminal -/

section Terminals

variable {terminal : Console.Terminal} {outcome : Outcome}

theorem Outcome.on_of_shows (h : terminal.Shows outcome.console) :
    outcome.on terminal = outcome := by
  rw [Outcome.on, Console.Terminal.give_of_shows h]

theorem Outcome.on_of_refuses {before : List Console.Item} {item : Console.Item}
    {fault : Console.Fault} (h : terminal.Refuses outcome.console before item fault) :
    outcome.on terminal = outcome.refused terminal before item fault := by
  rw [Outcome.on, h.give_eq]

/-- A run whose terminal refuses something breaks off, unless it lists the rules and fails. -/
theorem Outcome.ending_refused (outcome : Outcome) (terminal : Console.Terminal)
    (before : List Console.Item) (item : Console.Item) (fault : Console.Fault) :
    (∃ error, (outcome.refused terminal before item fault).ending = .aborted error) ∨
      outcome.ending = .listed ∧ (outcome.refused terminal before item fault).ending = .failed := by
  unfold Outcome.refused
  split
  · rename_i hending
    dsimp only
    split
    · exact .inl ⟨_, rfl⟩
    · exact .inr ⟨hending, rfl⟩
  · exact .inl ⟨_, rfl⟩

theorem Outcome.ending_on (outcome : Outcome) (terminal : Console.Terminal) :
    outcome.on terminal = outcome ∨ (∃ error, (outcome.on terminal).ending = .aborted error) ∨
      outcome.ending = .listed ∧ (outcome.on terminal).ending = .failed := by
  rcases terminal.shows_or_refuses outcome.console with hshows | ⟨before, item, fault, hrefuses⟩
  · exact .inl (Outcome.on_of_shows hshows)
  · rw [Outcome.on_of_refuses hrefuses]
    exact .inr (outcome.ending_refused terminal before item fault)

/-- The log does not bear on what the terminal shows. -/
theorem Outcome.unlogged_on (outcome : Outcome) (terminal : Console.Terminal) :
    (outcome.on terminal).unlogged = outcome.unlogged.on terminal := by
  rcases terminal.shows_or_refuses outcome.console with hshows | ⟨before, item, fault, hrefuses⟩
  · have hunlogged : terminal.Shows outcome.unlogged.console := hshows
    rw [Outcome.on_of_shows hshows, Outcome.on_of_shows hunlogged]
  · have hunlogged : terminal.Refuses outcome.unlogged.console before item fault := hrefuses
    rw [Outcome.on_of_refuses hrefuses, Outcome.on_of_refuses hunlogged]
    obtain ⟨ending, console, printed, log⟩ := outcome
    dsimp only [Outcome.unlogged]
    unfold Outcome.refused
    dsimp only
    split
    · split <;> rfl
    · rfl

end Terminals

/-! ## How runs end -/

section Ends

variable (terminal : Console.Terminal) {way : Way} {due : Outcome} {format : ReportFormat}

theorem Way.status_ending (way : Way) : way.ending.status = way.status := by
  cases way <;> rfl

/-- A way is shown as it should be if nothing stands in the way of it. -/
theorem Way.given_eq (hann : way.Announced) (hdue : way.outcome? settings format = some due) :
    way.given settings format = due := by
  cases way with
  | rulesFailed cause =>
      rcases loadFailure_cases cause with ⟨-, hshown⟩ | ⟨hnot, -⟩
      · exact hshown.trans (Option.some.inj hdue)
      · exact absurd hann hnot
  | reported report =>
      rw [Way.given_reported, hdue, Option.getD_some]
  | _ => exact Option.some.inj hdue

/-- Only a report can be left unprinted. -/
theorem Way.given_of_unprinted (h : way.printed? format = none) :
    way.given settings format = .silent (.aborted .longNumber) := by
  cases way with
  | reported report =>
      rw [Way.given_reported, Way.outcome?, h]
      rfl
  | _ => cases h

theorem Way.console_eq (h : way.outcome? settings format = some due) :
    due.console = (way.display settings format).items ∧ due.ending = way.ending ∧
      (way.printed? format).isSome := by
  rw [Way.outcome?, Option.map_eq_some_iff] at h
  obtain ⟨printed, hprinted, rfl⟩ := h
  exact ⟨rfl, rfl, by rw [hprinted]; rfl⟩

theorem Way.ending_ne_aborted (way : Way) (error : RunError) : way.ending ≠ .aborted error := by
  cases way <;> exact fun h => nomatch h

/-- An outcome that breaks off or fails is not that of a way that the console is given. -/
theorem Way.outcome?_ne {settings : Settings} (h : way.outcome? settings format = some due)
    {outcome : Outcome} (hending : (∃ error, outcome.ending = .aborted error) ∨
      due.ending = .listed ∧ outcome.ending = .failed) : due ≠ outcome := by
  obtain ⟨-, hway, -⟩ := Way.console_eq h
  rintro rfl
  rcases hending with ⟨error, haborted⟩ | ⟨hlisted, hfailed⟩
  · exact way.ending_ne_aborted error (hway.symm.trans haborted)
  · cases hlisted.symm.trans hfailed

theorem status_of_aborted_or_failed {outcome : Outcome} {P : Prop}
    (h : (∃ error, outcome.ending = .aborted error) ∨ P ∧ outcome.ending = .failed) :
    outcome.ending.status = 1 := by
  rcases h with ⟨error, h⟩ | ⟨-, h⟩ <;> rw [h] <;> rfl

/-- What is announced and can be printed is shown as far as the terminal shows it. -/
theorem ends_of_announced (hann : way.Announced) (hdue : way.outcome? settings format = some due) :
    way.Ends terminal settings format (due.on terminal) := by
  obtain ⟨hconsole, hending, hprinted⟩ := Way.console_eq hdue
  have hsame : ∀ {other}, way.outcome? settings format = some other → due = other := fun h =>
    Option.some.inj (hdue.symm.trans h)
  -- the terminal shows all of it, or the run ends at the first item that it refuses
  rcases terminal.shows_or_refuses due.console with hshows | ⟨before, item, fault, hrefuses⟩
  · rw [Outcome.on_of_shows hshows]
    have hgiven := hconsole ▸ hshows
    exact {
      shown_iff := iff_of_true hdue ⟨hann, hprinted, hgiven⟩
      status_of_shown := fun _ => by rw [hending, way.status_ending]
      status_of_not_shown := fun h => absurd hdue h
      unannounced := by
        rintro cause rfl hnot
        exact absurd hann hnot
      unprinted := fun hnone => by
        rw [hnone] at hprinted
        cases hprinted
      refused := fun _ other hother before item fault hrefuses => by
        cases hsame hother
        exact absurd hshows hrefuses.not_shows
      shows_of_isQuiet := fun _ _ => hgiven }
  · rw [Outcome.on_of_refuses hrefuses]
    have hbroken := due.ending_refused terminal before item fault
    have hne := Way.outcome?_ne hdue hbroken
    exact {
      shown_iff := iff_of_false (fun h => hne (hsame h))
        fun h => hrefuses.not_shows (hconsole ▸ h.2.2)
      status_of_shown := fun h => absurd (hsame h) hne
      status_of_not_shown := fun _ => status_of_aborted_or_failed hbroken
      unannounced := by
        rintro cause rfl hnot
        exact absurd hann hnot
      unprinted := fun hnone => by
        rw [hnone] at hprinted
        cases hprinted
      refused := fun _ other hother before' item' fault' hrefuses' => by
        cases hsame hother
        cases hrefuses.give_eq.symm.trans hrefuses'.give_eq
        rfl
      shows_of_isQuiet := fun hquiet hplain =>
        Console.Terminal.shows_display hquiet _ hplain }

/-- A failure to load rules that is not announced. -/
theorem ends_of_unannounced {cause : LoadError} (h : ¬ cause.Announced) :
    (Way.rulesFailed cause).Ends terminal settings format ((loadFailure cause).on terminal) := by
  have hcases : (loadFailure cause).on terminal = .silent (.aborted (.load cause)) ∨
      (loadFailure cause).on terminal =
        (Outcome.shown .failed [Console.failed cause.message]).on terminal := by
    rcases loadFailure_cases cause with ⟨hann, -⟩ | ⟨-, haborted | hfailed⟩
    · exact absurd hann h
    · rw [haborted]
      exact .inl rfl
    · rw [hfailed]
      exact .inr rfl
  have hbroken : (loadFailure cause).on terminal =
        .shown .failed [Console.failed cause.message] ∨
      ∃ error, ((loadFailure cause).on terminal).ending = .aborted error := by
    rcases hcases with haborted | hfailed
    · exact .inr ⟨_, congrArg Outcome.ending haborted⟩
    · rw [hfailed]
      rcases Outcome.ending_on _ terminal with hsame | haborted | ⟨hlisted, -⟩
      · exact .inl hsame
      · exact .inr haborted
      · cases hlisted
  -- the bare complaint is not the announcement that is due, and to break off is not to fail
  have hnot : (Way.rulesFailed cause).outcome? settings format ≠
      some ((loadFailure cause).on terminal) := by
    intro hdue
    have hsame := Option.some.inj hdue
    rcases hbroken with hfailed | ⟨error, haborted⟩
    · rw [hfailed, Outcome.shown, Outcome.mk.injEq] at hsame
      exact failed_ne_notLoaded _ (List.cons.inj hsame.2.1).1.symm
    · cases (congrArg Outcome.ending hsame).trans haborted
  exact {
    shown_iff := iff_of_false hnot fun hann => h hann.1
    status_of_shown := fun h => absurd h hnot
    status_of_not_shown := fun _ => by
      rcases hbroken with hfailed | ⟨error, haborted⟩
      · rw [hfailed]
        rfl
      · rw [haborted]
        rfl
    unannounced := by
      rintro other ⟨⟩ -
      exact hcases
    unprinted := fun hnone => by cases hnone
    refused := fun hann => absurd hann h
    shows_of_isQuiet := fun hquiet hplain => Console.Terminal.shows_display hquiet _ hplain }

/-- A report that has no text. -/
theorem ends_of_unprinted (h : way.printed? format = none) :
    way.Ends terminal settings format (.silent (.aborted .longNumber)) := by
  have hnone : way.outcome? settings format = none := by rw [Way.outcome?, h, Option.map_none]
  have hnot : ∀ {outcome}, way.outcome? settings format ≠ some outcome := by simp [hnone]
  exact {
    shown_iff := iff_of_false hnot fun hprinted => by simp [h] at hprinted
    status_of_shown := fun h => absurd h hnot
    status_of_not_shown := fun _ => rfl
    unannounced := by
      rintro cause rfl
      cases h
    unprinted := fun _ => rfl
    refused := fun _ due hdue => absurd hdue hnot
    shows_of_isQuiet := fun hquiet hplain => Console.Terminal.shows_display hquiet _ hplain }

theorem ends_given (settings : Settings) (format : ReportFormat) (way : Way) :
    way.Ends terminal settings format ((way.given settings format).on terminal) := by
  cases hdue : way.outcome? settings format with
  | none =>
      have hunprinted : way.printed? format = none := Option.map_eq_none_iff.1 hdue
      rw [Way.given_of_unprinted hunprinted]
      exact ends_of_unprinted terminal hunprinted
  | some due =>
      by_cases hann : way.Announced
      · rw [Way.given_eq hann hdue]
        exact ends_of_announced terminal hann hdue
      · cases way with
        | rulesFailed cause => exact ends_of_unannounced terminal hann
        | _ => exact absurd trivial hann

end Ends

/-- A run whose settings can be made and that does not write to a file ends in the one way that is
due. It shows what belongs to the way and has its status, with three exceptions: a failure to load
the rules for a cause that is not announced, a report with a number that is too long, and what the
terminal refuses. -/
theorem Session.run_outcome (terminal : Console.Terminal) {session : Session} {line : List String}
    {arguments : Arguments} {base : Settings} (hbase : session.base = .ok base)
    (hrequest : request session.files line = .ok (.run arguments))
    (houtput : arguments.output = none) :
    ∃! way, Due session.files (arguments.adjust base) arguments way ∧
      way.Ends terminal (arguments.adjust base) arguments.format
        (session.runOn terminal line).2.unlogged := by
  obtain ⟨way, hdue, hunique⟩ :=
    existsUnique_due session.files (arguments.adjust base) arguments
  have hgiven := (run_unlogged hbase hrequest).trans (perform_of_due houtput hdue)
  -- the terminal has no part in what is given to it
  have hshown : (session.runOn terminal line).2.unlogged =
      (way.given (arguments.adjust base) arguments.format).on terminal := by
    rw [← hgiven, ← Outcome.unlogged_on]
    rfl
  refine ⟨way, ⟨hdue, ?_⟩, fun other hother => hunique other hother.1⟩
  rw [hshown]
  exact ends_given terminal _ _ way

/-- A session whose environment names a rules file, with a document and an empty directory. -/
def sessionNaming (file : String) : Session :=
  .start (.ofList [("XMLRULES_RULES_RULES_FILE", file)])
    ⟨[], [[['d']]], [([['a']], "<a/>".toUTF8.data.toList)]⟩

/-- The settings of such a session. -/
def settingsNaming (file : String) : Settings :=
  { Settings.standard with rules := ⟨some file, "default", []⟩ }

/-- What a command line with only the document asks for. -/
def documentOnly : Arguments := ⟨"a", none, none, [], .console, none, false, .warning⟩

theorem isQuiet_plain : Console.Terminal.plain.IsQuiet := fun _ _ => rfl

/-- A missing rules file is announced. -/
theorem Session.run_outcome_missing :
    (sessionNaming "gone").base = .ok (settingsNaming "gone") ∧
    request (sessionNaming "gone").files ["a"] = .ok (.run documentOnly) ∧
    ((sessionNaming "gone").runOn .plain ["a"]).2.unlogged =
      .shown .failed [Console.notLoaded (AccessError.missing "gone").message] := by
  have hbase : (sessionNaming "gone").base = .ok (settingsNaming "gone") := by cbv
  have hrequest : request (sessionNaming "gone").files ["a"] = .ok (.run documentOnly) := by cbv
  obtain ⟨way, ⟨hdue, hends⟩, -⟩ := Session.run_outcome .plain hbase hrequest rfl
  have hmissing : way = .rulesFailed (.access (.missing "gone")) :=
    hdue.unique (.rulesFailed (.inl ⟨"gone", by cbv, by decide⟩) (by cbv)
      (.inr ⟨.mk .element "a" [] "" [], by cbv⟩))
  subst hmissing
  have hshows := hends.shows_of_isQuiet isQuiet_plain (List.forall_mem_nil _)
  exact ⟨hbase, hrequest, (Option.some.inj (hends.shown_iff.2 ⟨trivial, rfl, hshows⟩)).symm⟩

/-- What a command line asks for that lists a rule whose name is a tag. -/
def tagListed : Arguments :=
  ⟨"a", none, none, ["element:0:[/]x"], .console, none, true, .warning⟩

/-- A directory in the place of the rules file is not announced: the run breaks off. So it does
where the rules are listed and one of them holds a tag, which closes the style around it. -/
theorem Session.run_breaks_off :
    ((sessionNaming "d").base = .ok (settingsNaming "d") ∧
      request (sessionNaming "d").files ["a"] = .ok (.run documentOnly) ∧
      Due (sessionNaming "d").files (documentOnly.adjust (settingsNaming "d")) documentOnly
        (.rulesFailed (.access (.isDirectory "d"))) ∧
      ((sessionNaming "d").runOn .plain ["a"]).2.unlogged =
        .silent (.aborted (.load (.access (.isDirectory "d"))))) ∧
    (Session.start [] (sessionNaming "d").files).base = .ok .standard ∧
    request (sessionNaming "d").files ["a", "--list-rules", "--rule", "element:0:[/]x"] =
      .ok (.run tagListed) ∧
    Due (sessionNaming "d").files (tagListed.adjust .standard) tagListed
      (.listed [⟨.element, 0, some "[/]x", "element:0:[/]x"⟩]) ∧
    ((Session.start [] (sessionNaming "d").files).runOn .plain
      ["a", "--list-rules", "--rule", "element:0:[/]x"]).2.unlogged =
        ⟨.aborted (.console (.markup (.notOpen ⟨52, "/dim", none⟩))),
          [.line "\n[bold blue]Rules (1):[/bold blue]\n"], "", []⟩ := by
  refine ⟨⟨by cbv, by cbv, ?_, by cbv⟩, by cbv, by cbv, ?_, by cbv⟩
  · exact .rulesFailed (.inl ⟨"d", by cbv, by decide⟩) (by cbv)
      (.inr ⟨.mk .element "a" [] "" [], by cbv⟩)
  · exact .listed (.inr (by simp [tagListed, Arguments.adjust])) rfl (by cbv)

end CommandLine

end DepthRules
