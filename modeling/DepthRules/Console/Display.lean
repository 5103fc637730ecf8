import DepthRules.Console.Cell
import DepthRules.Rule.Declaration

/-!
# What the console shows

The console is given lines of markup and tables of it. Each has a fixed form into which texts are
put: labels of rules, values and complaints are escaped, while the path of a document, the written
form of a rule and the name of a node stand as they are.
-/

namespace DepthRules.Console

/-- A line or a table, in markup. -/
inductive Item where
  | line (markup : Str)
  | table (columns : List Str) (rows : List (List Str))
  deriving DecidableEq, Repr

/-- A complaint, in markup. -/
def complaint (markup : Str) : Item := .line ("[bold red]Error:[/bold red] " ++ markup)

/-- The complaint that there are no rules. -/
def noRules : Item := complaint "No rules given (use --rules or --rule)"

/-- The complaint that rules cannot be loaded. -/
def notLoaded (message : Str) : Item :=
  complaint ("Failed to load rules: " ++ escape message)

/-- The complaint that a run failed. -/
def failed (message : Str) : Item := complaint (escape message)

/-- A rule in the list of rules. -/
def ruleLine (d : Declaration) : Item :=
  .line ("  [cyan]•[/cyan] " ++ escape d.label ++ " [dim]" ++ d.text ++ "[/dim]")

/-- The list of rules. -/
def ruleList (declarations : List Declaration) : List Item :=
  .line ("\n[bold blue]Rules (" ++ toString declarations.length ++ "):[/bold blue]\n") ::
    (declarations.map ruleLine ++ [.line ""])

/-- The heading of a report. -/
def heading (r : Report) : Item :=
  .line ("\n[bold cyan]" ++ r.path.getD "None" ++ "[/bold cyan] [dim](" ++ toString r.ruleCount ++
    " rule(s), max depth " ++ toString r.maxDepth ++ ")[/dim]")

/-- The columns of the table of matches. -/
def matchColumns : List Str := ["#", "Rule", "Depth", "Node", "Value"]

/-- A match in the table of matches. -/
def matchRow (limit : Int) (place : Nat) (m : Match) : List Str :=
  [toString place, escape m.label, toString m.depth, m.nodeName, valueCell limit m.value]

/-- The rows of the table of matches, whose places are counted from `place`. -/
def matchRows (limit : Int) (place : Nat) : List Match → List (List Str)
  | [] => []
  | m :: rest => matchRow limit place m :: matchRows limit (place + 1) rest

/-- A report, with values in at most `limit` characters. -/
def report (limit : Int) (r : Report) : List Item :=
  heading r ::
    (if r.recorded.isEmpty then [.line "\n[yellow]No rules matched.[/yellow]\n"]
    else
      [.table matchColumns (matchRows limit 1 r.recorded),
        .line ("[bold green]" ++ toString r.matchCount ++ " match(es)[/bold green]\n")])

end DepthRules.Console
