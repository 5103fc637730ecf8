import DepthRules.Json.Writer
import DepthRules.Match.Basic

/-!
# Reports as JSON
-/

namespace DepthRules

/-- What is recorded: an object with the attributes in order, or a string. -/
def Given.toJson : Given → Json
  | .attributes entries => .obj (entries.map fun e => (e.1, .str e.2))
  | .text content => .str content

/-- A match as an object. -/
def Match.toJson (m : Match) : Json :=
  .obj [("label", .str m.label), ("kind", .str m.kind), ("depth", .int m.depth),
    ("node", .str m.nodeName), ("value", m.value.toJson)]

/-- A report as an object: the path, the counts and the matches. -/
def Report.toJson (r : Report) : Json :=
  .obj [("file_path", match r.path with | none => .null | some path => .str path),
    ("rule_count", .int r.ruleCount), ("max_depth", .int r.maxDepth),
    ("total_matches", .int r.matchCount), ("matches", .arr (r.recorded.map Match.toJson))]

/-- A report as JSON text, on one line or over several. There is none if one of its numbers has more
digits than are written, of which there may be `most` or, without a limit, any number. -/
def Report.toJsonString? (r : Report) (pretty : Bool)
    (most : Option Nat := some Text.maxDigits) : Option String :=
  r.toJson.toString? most pretty

end DepthRules
