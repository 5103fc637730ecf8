import DepthRules.Console.Markup
import DepthRules.Match.Basic
import DepthRules.Text.Shorten

/-!
# Table cells
-/

namespace DepthRules.Console

open Text

/-- Attributes in the form `name="value"`, with spaces between. -/
def attributeLine (entries : Entries Str Str) : Str :=
  (" " : Str).intercalate (entries.map fun e => e.1 ++ "=\"" ++ e.2 ++ "\"")

/-- What stands for an element without attributes. -/
def noAttributes : Str := "[dim](no attributes)[/dim]"

/-- The markup that shows what a handler was given in at most `limit` code points. -/
def valueCell (limit : Int) : Given → Str
  | .attributes entries =>
      let line := attributeLine entries
      if line.isEmpty then noAttributes else escape (shorten limit line)
  | .text content => escape (shorten limit content)

end DepthRules.Console
