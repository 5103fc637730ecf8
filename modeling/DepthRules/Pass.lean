import DepthRules.Document
import DepthRules.Match.Basic
import DepthRules.Rule.Source

/-!
# A pass over a document

A pass reads a document, loads the rules, and runs them over the document; every call of a rule
becomes a match of its report.
-/

namespace DepthRules

/-- Why a pass fails. -/
inductive PassError where
  | document (cause : DocumentError)
  | load (cause : LoadError)
  | rule (cause : Rule.NameError)
  | defects (found : List Defect)
  deriving Repr

/-- The wording of an error. -/
def PassError.message : PassError → Str
  | .document cause => cause.message
  | .load cause => cause.message
  | .rule cause => cause.message
  | .defects found => Defect.describeAll found

namespace Pass

/-- The rules that are declared. -/
def rulesOf : List Declaration → Except Rule.NameError (List Rule)
  | [] => .ok []
  | d :: rest => do
      let rule ← d.toRule
      let rules ← rulesOf rest
      return rule :: rules

/-- Records calls as matches, the last one first. -/
def record (declarations : List Declaration) : Listener (List Match) (List Defect)
  | .read _ _, recorded => (recorded, none)
  | .call call, recorded =>
      match declarations[call.rule]? with
      | none => (recorded, none)
      | some d =>
          match Match.make d.label d.kind.word d.depth call.node.name call.payload.given with
          | .ok m => (m :: recorded, none)
          | .error defects => (recorded, some defects)

/-- The matches that declarations make in a document. -/
def matchesOf (declarations : List Declaration) (engine : Engine) (root : Node) :
    Checked (List Match) :=
  match engine.run (record declarations) root [] with
  | (recorded, none) => .ok recorded.reverse
  | (_, some defects) => .error defects

/-- A task that fails with another error as a part of a pass. -/
def part {ε α : Type} (wrap : ε → PassError) (task : Task ε α) : Task PassError α :=
  ExceptT.adapt wrap task

/-- Loads the rules and builds the engine for them. -/
def prepare (files : Files) (settings : RulesSettings) :
    Task PassError (List Declaration × Engine) := do
  Task.log .info .pass "Stage 2/3: Loading rules..."
  let declarations ← part PassError.load (Rule.load files settings)
  let rules ← Task.ofExcept PassError.rule (rulesOf declarations)
  let engine := Engine.ofRules rules
  let size := toString rules.length ++ " rule(s), max depth " ++ toString engine.maxDepth
  Task.log .debug .engine ("Rule engine built with " ++ size)
  Task.log .info .pass ("Loaded " ++ size)
  return (declarations, engine)

/-- Runs the rules the settings name over the document at a path. -/
def run (files : Files) (settings : Settings) (path : String) : Task PassError Report := do
  let path := Path.normalize path
  Task.log .info .pass ("Stage 1/3: Parsing " ++ path ++ "...")
  let root ← part PassError.document (Document.load files settings.parse path)
  let (declarations, engine) ← prepare files settings.rules
  Task.log .info .pass "Stage 3/3: Matching..."
  let found ← Task.ofExcept PassError.defects (matchesOf declarations engine root)
  Task.log .info .pass ("Recorded " ++ toString found.length ++ " match(es)")
  Task.ofExcept PassError.defects
    (Report.make (some path) engine.maxDepth declarations.length found)

end Pass

end DepthRules
