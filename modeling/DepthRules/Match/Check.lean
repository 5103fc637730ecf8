import DepthRules.Check.Field
import DepthRules.Files.Path
import DepthRules.Match.Basic

/-!
# Matches and reports from data
-/

namespace DepthRules

open Check

/-- What is recorded: a mapping from texts to texts, or a text. Of a value that is neither, both
defects are told. -/
def Given.check (v : Value) : Checked Given :=
  match Check.mapping Check.text v, Check.text v with
  | .ok entries, _ => .ok (.attributes entries)
  | _, .ok content => .ok (.text content)
  | .error ds, .error es =>
      .error (ds.map (Defect.under "dict[str,str]") ++ es.map (Defect.under "str"))

/-- A match from a mapping with its parts. -/
def Match.check (v : Value) : Checked Match := do
  let entries ← fieldsOf "Match" v
  let (label, kind, depth, nodeName, value) ←
    Checked.both (required entries "label" Check.text) <|
    Checked.both (required entries "kind" Check.text) <|
    Checked.both (required entries "depth" (atLeast 0)) <|
    Checked.both (required entries "node_name" Check.text)
      (required entries "value" Given.check)
  Match.make label kind depth.val nodeName value

/-- A path or nothing. -/
def checkPath (v : Value) : Checked (Option String) :=
  match v.content with
  | .null => .ok none
  | .str s => (fileName s).map fun name => some (Path.normalize name)
  | _ => refuse "Input is not a valid path for <class 'pathlib.Path'>"

/-- A report from a mapping with its parts. -/
def Report.check (v : Value) : Checked Report := do
  let entries ← fieldsOf "MatchResult" v
  let (path, maxDepth, ruleCount, recorded) ←
    Checked.both (optional entries "path" none checkPath) <|
    Checked.both (required entries "max_depth" (atLeast 0)) <|
    Checked.both (required entries "rule_count" (atLeast 0))
      (optional entries "matches" [] (Check.list Match.check))
  Report.make path maxDepth.val ruleCount.val recorded

end DepthRules
