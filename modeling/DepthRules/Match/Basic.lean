import DepthRules.Defect
import DepthRules.Engine.Basic

/-!
# Matches

A match records one call of a rule's handler, and a report holds all matches of one pass over a
document. Both are built by constructors that check what they are given.
-/

namespace DepthRules

/-- What is said of a number below the least one allowed. -/
def tooSmall (least : Int) : Str :=
  "Input should be greater than or equal to " ++ toString least

/-- A number that must not be negative. -/
def Checked.natural (i : Int) : Checked Nat :=
  if i < 0 then .error [.here (tooSmall 0)] else .ok i.toNat

/-- What is recorded of what a handler was given: a mapping from texts to texts, or a text. -/
inductive Given where
  | attributes (entries : Entries Str Str)
  | text (content : Str)
  deriving DecidableEq, Repr

/-- What a handler was given, to be recorded. -/
def Payload.given : Payload → Given
  | .attributes entries => .attributes (entries.map fun e => (Str.ofString e.1, Str.ofString e.2))
  | .text content => .text content

/-- A call of a rule's handler: the label and kind of the rule, the level and name of the node, and
what the handler was given. -/
structure Match where
  label : Str
  kind : Str
  depth : Nat
  nodeName : Str
  value : Given
  deriving DecidableEq, Repr

/-- The match with these parts; the depth must not be negative. -/
def Match.make (label kind : Str) (depth : Int) (nodeName : Str) (value : Given) :
    Checked Match :=
  (Checked.within "depth" (Checked.natural depth)).map fun depth =>
    ⟨label, kind, depth, nodeName, value⟩

/-- A match in one line. -/
def Match.text (m : Match) : Str :=
  m.label ++ ": <" ++ m.nodeName ++ "> at depth " ++ toString m.depth

/-- The matches of one pass, in the order in which they were made, with the document's path, the
deepest level a rule could match, and the number of rules. -/
structure Report where
  path : Option String
  maxDepth : Nat
  ruleCount : Nat
  recorded : List Match
  deriving DecidableEq, Repr

/-- The report with these parts; neither number may be negative. -/
def Report.make (path : Option String) (maxDepth ruleCount : Int) (recorded : List Match) :
    Checked Report :=
  (Checked.both (Checked.within "max_depth" (Checked.natural maxDepth))
    (Checked.within "rule_count" (Checked.natural ruleCount))).map fun (maxDepth, ruleCount) =>
      ⟨path, maxDepth, ruleCount, recorded⟩

/-- The number of matches. -/
def Report.matchCount (r : Report) : Nat := r.recorded.length

/-- The matches with a label. -/
def Report.byLabel (r : Report) (label : Str) : List Match :=
  r.recorded.filter fun m => m.label = label

end DepthRules
