import DepthRules.Console.Display

/-!
# Forms of what the console is given

All that the console is given has a fixed form (`Template`) into which texts are put. Labels, values
and complaints are escaped, whatever they are. The path of a document, the written form of a rule
and the name of a node are put in as they stand, so that the form is kept just where they need no
escape (`Display.items_eq_iff`).
-/

namespace DepthRules.Console

open Text

/-- A part of markup: fixed, or a text that is to be shown as it is. -/
inductive Piece where
  | fixed (markup : Str)
  | text (shown : Str)

/-- The markup of a part. -/
def Piece.markup : Piece → Str
  | .fixed markup => markup
  | .text shown => escape shown

/-- The markup that parts make up. -/
def fill : List Piece → Str
  | [] => []
  | piece :: rest => piece.markup ++ fill rest

@[simp] theorem fill_nil : fill [] = [] := rfl

@[simp] theorem fill_cons (piece : Piece) (rest : List Piece) :
    fill (piece :: rest) = piece.markup ++ fill rest := rfl

@[simp] theorem markup_fixed (markup : Str) : (Piece.fixed markup).markup = markup := rfl

@[simp] theorem markup_text (shown : Str) : (Piece.text shown).markup = escape shown := rfl

/-- The form of a line or of a table. -/
inductive Template where
  | line (pieces : List Piece)
  | table (columns : List Str) (rows : List (List (List Piece)))

/-- The line or table with its texts escaped. -/
def Template.item : Template → Item
  | .line pieces => .line (fill pieces)
  | .table columns rows => .table columns (rows.map fun row => row.map fill)

/-- The form of a complaint. -/
def complaintTemplate (lead message : Str) : Template :=
  .line [.fixed ("[bold red]Error:[/bold red] " ++ lead), .text message]

/-- The form of a rule in the list of rules. -/
def ruleLineTemplate (d : Declaration) : Template :=
  .line [.fixed "  [cyan]•[/cyan] ", .text d.label, .fixed " [dim]", .text d.text, .fixed "[/dim]"]

/-- The form of the list of rules. -/
def ruleListTemplate (declarations : List Declaration) : List Template :=
  .line [.fixed ("\n[bold blue]Rules (" ++ toString declarations.length ++ "):[/bold blue]\n")] ::
    (declarations.map ruleLineTemplate ++ [.line []])

/-- The form of the heading of a report. -/
def headingTemplate (r : Report) : Template :=
  .line [.fixed "\n[bold cyan]", .text (r.path.getD "None"),
    .fixed ("[/bold cyan] [dim](" ++ toString r.ruleCount ++ " rule(s), max depth " ++
      toString r.maxDepth ++ ")[/dim]")]

/-- The form of a value, which is shown in at most `limit` characters. -/
def valueTemplate (limit : Int) : Given → List Piece
  | .attributes entries =>
      if (attributeLine entries).isEmpty then [.fixed noAttributes]
      else [.text (shorten limit (attributeLine entries))]
  | .text content => [.text (shorten limit content)]

/-- The form of a match in the table of matches. -/
def rowTemplate (limit : Int) (place : Nat) (m : Match) : List (List Piece) :=
  [[.fixed (toString place)], [.text m.label], [.fixed (toString m.depth)], [.text m.nodeName],
    valueTemplate limit m.value]

/-- The form of the rows of the table of matches. -/
def rowTemplates (limit : Int) (place : Nat) : List Match → List (List (List Piece))
  | [] => []
  | m :: rest => rowTemplate limit place m :: rowTemplates limit (place + 1) rest

/-- The form of a report. -/
def reportTemplate (limit : Int) (r : Report) : List Template :=
  headingTemplate r ::
    (if r.recorded.isEmpty then [.line [.fixed "\n[yellow]No rules matched.[/yellow]\n"]]
    else
      [.table matchColumns (rowTemplates limit 1 r.recorded),
        .line [.fixed ("[bold green]" ++ toString r.matchCount ++ " match(es)[/bold green]\n")]])

/-! ## Rules -/

theorem ruleLine_eq_iff {d : Declaration} :
    ruleLine d = (ruleLineTemplate d).item ↔ escape d.text = d.text := by
  simp only [ruleLine, ruleLineTemplate, Template.item, fill_cons, fill_nil, markup_fixed,
    markup_text, List.append_nil, List.append_assoc, Item.line.injEq,
    List.append_cancel_left_eq, List.append_cancel_right_eq]
  exact eq_comm

theorem ruleList_eq_iff {declarations : List Declaration} :
    ruleList declarations = (ruleListTemplate declarations).map Template.item ↔
      ∀ d ∈ declarations, escape d.text = d.text := by
  have hlines : declarations.map ruleLine = declarations.map (Template.item ∘ ruleLineTemplate) ↔
      ∀ d ∈ declarations, escape d.text = d.text := by
    simp only [List.map_inj_left, Function.comp_apply, ruleLine_eq_iff]
  simp [ruleList, ruleListTemplate, Template.item, hlines]

/-! ## Reports -/

theorem heading_eq_iff {r : Report} :
    heading r = (headingTemplate r).item ↔ escape (r.path.getD "None") = r.path.getD "None" := by
  simp only [heading, headingTemplate, Template.item, fill_cons, fill_nil, markup_fixed,
    markup_text, List.append_nil, List.append_assoc, Item.line.injEq,
    List.append_cancel_left_eq, List.append_cancel_right_eq]
  exact eq_comm

theorem valueCell_eq (limit : Int) (value : Given) :
    valueCell limit value = fill (valueTemplate limit value) := by
  cases value with
  | text content => simp [valueCell, valueTemplate]
  | attributes entries =>
      rw [valueCell, valueTemplate]
      split <;> simp

theorem matchRow_eq_iff {limit : Int} {place : Nat} {m : Match} :
    matchRow limit place m = (rowTemplate limit place m).map fill ↔
      escape m.nodeName = m.nodeName := by
  simp only [matchRow, rowTemplate, List.map_cons, List.map_nil, fill_cons, fill_nil, markup_fixed,
    markup_text, List.append_nil, List.cons.injEq, true_and, and_true, valueCell_eq]
  exact eq_comm

theorem matchRows_eq_iff (limit : Int) (place : Nat) {found : List Match} :
    matchRows limit place found = (rowTemplates limit place found).map (fun row => row.map fill) ↔
      ∀ m ∈ found, escape m.nodeName = m.nodeName := by
  induction found generalizing place with
  | nil => simp [matchRows, rowTemplates]
  | cons m rest ih => simp [matchRows, rowTemplates, matchRow_eq_iff, ih]

/-- A report keeps its form just where the path and the names of the nodes need no escape. -/
theorem report_eq_iff {limit : Int} {r : Report} :
    report limit r = (reportTemplate limit r).map Template.item ↔
      escape (r.path.getD "None") = r.path.getD "None" ∧
        ∀ m ∈ r.recorded, escape m.nodeName = m.nodeName := by
  rw [report, reportTemplate, List.map_cons, List.cons.injEq, heading_eq_iff]
  refine and_congr_right fun _ => ?_
  cases hrecorded : r.recorded with
  | nil => simp [Template.item]
  | cons m rest =>
      rw [← hrecorded, ← matchRows_eq_iff limit 1]
      simp [Template.item, hrecorded]

/-! ## What a run shows -/

/-- What the console is given in a run. -/
inductive Display where
  | nothing
  | noRules
  | notLoaded (message : Str)
  | failed (message : Str)
  | rules (declarations : List Declaration)
  | report (limit : Int) (r : Report)

namespace Display

/-- What is given. -/
def items : Display → List Item
  | .nothing => []
  | .noRules => [Console.noRules]
  | .notLoaded message => [Console.notLoaded message]
  | .failed message => [Console.failed message]
  | .rules declarations => ruleList declarations
  | .report limit r => Console.report limit r

/-- The form of what is given. -/
def templates : Display → List Template
  | .nothing => []
  | .noRules =>
      [.line [.fixed "[bold red]Error:[/bold red] ",
        .fixed "No rules given (use --rules or --rule)"]]
  | .notLoaded message => [complaintTemplate "Failed to load rules: " message]
  | .failed message => [complaintTemplate "" message]
  | .rules declarations => ruleListTemplate declarations
  | .report limit r => reportTemplate limit r

/-- The texts that are put in as they stand. -/
def unescaped : Display → List Str
  | .rules declarations => declarations.map Declaration.text
  | .report _ r => r.path.getD "None" :: r.recorded.map Match.nodeName
  | _ => []

/-- The form is kept just where the texts that are put in as they stand need no escape. -/
theorem items_eq_iff (shown : Display) :
    shown.items = shown.templates.map Template.item ↔ ∀ s ∈ shown.unescaped, escape s = s := by
  cases shown with
  | nothing => simp [items, templates, unescaped]
  | noRules => simp [items, templates, unescaped, Console.noRules, complaint, Template.item]
  | notLoaded message =>
      simp [items, templates, unescaped, Console.notLoaded, complaint, complaintTemplate,
        Template.item]
  | failed message =>
      simp [items, templates, unescaped, Console.failed, complaint, complaintTemplate,
        Template.item]
  | rules declarations =>
      rw [items, templates, ruleList_eq_iff]
      simp [unescaped]
  | report limit r =>
      rw [items, templates, report_eq_iff]
      simp [unescaped]

end Display

end DepthRules.Console
