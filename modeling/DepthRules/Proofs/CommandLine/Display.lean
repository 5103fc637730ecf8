import DepthRules.Proofs.CommandLine.Outcome
import DepthRules.Proofs.Console.Display

/-!
# What a run gives to the console

Whatever a run gives to the console is a `Display`, so that it keeps its form just where the texts
that are put in unescaped need no escape (`Session.run_display`).
-/

namespace DepthRules.CommandLine

open Console

theorem loadFailure_display (cause : LoadError) :
    ∃ shown : Display, (loadFailure cause).console = shown.items := by
  rcases loadFailure_cases cause with ⟨-, h⟩ | ⟨-, h | h⟩
  · exact ⟨.notLoaded cause.message, congrArg Outcome.console h⟩
  · exact ⟨.nothing, congrArg Outcome.console h⟩
  · exact ⟨.failed cause.message, congrArg Outcome.console h⟩

theorem passFailure_display (cause : PassError) :
    ∃ shown : Display, (passFailure cause).console = shown.items := by
  cases cause with
  | load cause => exact loadFailure_display cause
  | document cause => exact ⟨.failed cause.message, rfl⟩
  | rule cause => exact ⟨.failed cause.message, rfl⟩
  | defects found => exact ⟨.failed (Defect.describeAll found), rfl⟩

theorem publish_display (files : Files) (settings : Settings) (arguments : Arguments)
    (r : Report) :
    ∃ shown : Display, (publish files settings arguments r).2.console = shown.items := by
  rw [publish]
  split
  · exact ⟨.report settings.output.maxValueLength r, rfl⟩
  · -- as JSON a report goes to standard output or to a file, and the console is given nothing
    refine ⟨.nothing, ?_⟩
    dsimp only
    split
    · rfl
    · split
      · rfl
      · split <;> rfl

theorem listRules_display (files : Files) (settings : Settings) :
    ∃ shown : Display, (listRules files settings).console = shown.items := by
  rw [listRules]
  rcases (Rule.load files settings.rules).outcome with ⟨_ | declarations, log⟩
  · exact loadFailure_display _
  · exact ⟨.rules declarations, rfl⟩

theorem runRules_display (files : Files) (settings : Settings) (arguments : Arguments) :
    ∃ shown : Display, (runRules files settings arguments).2.console = shown.items := by
  rw [runRules]
  rcases (Pass.run files settings arguments.path).outcome with ⟨_ | r, log⟩
  · exact passFailure_display _
  · exact publish_display files settings arguments r

theorem perform_display (files : Files) (settings : Settings) (arguments : Arguments) :
    ∃ shown : Display, (perform files settings arguments).2.console = shown.items := by
  rw [perform]
  split
  · exact ⟨.noRules, rfl⟩
  · split
    · exact listRules_display files settings
    · exact runRules_display files settings arguments

/-- Whatever a run gives to the console has its form, with the texts escaped, just where the path of
the document, the written forms of the rules and the names of the nodes shown need no escape. -/
theorem Session.run_display (session : Session) (line : List String) :
    ∃ shown : Display, (session.run line).2.console = shown.items ∧
      ((session.run line).2.console = shown.templates.map Template.item ↔
        ∀ s ∈ shown.unescaped, escape s = s) := by
  have hshown : ∃ shown : Display, (session.run line).2.console = shown.items := by
    rw [Session.run]
    split
    · exact ⟨.nothing, rfl⟩
    · exact ⟨.nothing, rfl⟩
    · exact ⟨.nothing, rfl⟩
    · rename_i arguments _
      rw [Session.runRequest]
      split
      · exact ⟨.nothing, rfl⟩
      · exact perform_display _ _ arguments
  obtain ⟨shown, h⟩ := hshown
  refine ⟨shown, h, ?_⟩
  rw [h]
  exact shown.items_eq_iff

/-- A session with a document and no settings. -/
def plainSession : Session := .start [] ⟨[], [], [([['a']], "<a/>".toUTF8.data.toList)]⟩

/-- The written form of a rule can open a tag. -/
theorem Session.run_display_tag :
    (plainSession.run ["a", "--list-rules", "--rule", "element:0:[b]x"]).2.console =
      [.line "\n[bold blue]Rules (1):[/bold blue]\n",
        .line "  [cyan]•[/cyan] element:0:\\[b]x [dim]element:0:[b]x[/dim]", .line ""] ∧
    (plainSession.run ["a", "--list-rules", "--rule", "element:0:[b]x"]).2.console ≠
      (ruleListTemplate [⟨.element, 0, some "[b]x", "element:0:[b]x"⟩]).map Template.item := by
  have hshown :
      (plainSession.run ["a", "--list-rules", "--rule", "element:0:[b]x"]).2.console =
        [.line "\n[bold blue]Rules (1):[/bold blue]\n",
          .line "  [cyan]•[/cyan] element:0:\\[b]x [dim]element:0:[b]x[/dim]", .line ""] := by cbv
  refine ⟨hshown, ?_⟩
  rw [hshown]
  decide

end DepthRules.CommandLine
