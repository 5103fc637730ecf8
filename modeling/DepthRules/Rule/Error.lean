import DepthRules.Defect
import DepthRules.Rule.Basic
import DepthRules.Text.Quoted

/-!
# Rules that cannot be read

Every reason for which a rule text, a rules file or a ruleset is refused, and its wording. A reason
found inside something larger is wrapped by where it was found.
-/

namespace DepthRules.Rule

/-- Why rules are refused. -/
inductive ReadError where
  | empty
  | incomplete (text : Str)
  | unknownKind (word : Str)
  | malformedDepth (shown : String)
  | negativeDepth (depth : Int)
  | emptyTag (label : Str)
  | nameMismatch (label : Str) (cause : NameError)
  | inPiece (piece : Str) (cause : ReadError)
  | atLine (file : String) (line : Nat) (cause : ReadError)
  | noRuleset (name : Str) (available : List Str)
  | noBase (name referrer : Str)
  | circular (name : Str)
  | inRuleset (name : Str) (cause : ReadError)
  | malformedYaml (file : String)
  | malformedFile (file : String) (defects : List Defect)
  deriving Repr

/-- The wording of a reason. -/
def ReadError.message : ReadError → Str
  | .empty => "Empty rule string"
  | .incomplete text => "Invalid rule format: expected 'kind:depth[:tag]' but got '" ++ text ++ "'"
  | .unknownKind word =>
      "Invalid kind '" ++ word ++ "'. Valid kinds: " ++ ", ".intercalate (Kind.all.map Kind.word)
  | .malformedDepth shown => "Invalid depth " ++ shown ++ ": expected a non-negative integer"
  | .negativeDepth depth => "Invalid depth " ++ toString depth ++ ": depth cannot be negative"
  | .emptyTag label => "Empty tag in rule '" ++ label ++ "'"
  | .nameMismatch label cause => "Invalid rule '" ++ label ++ "': " ++ cause.message
  | .inPiece piece cause => "Error parsing rule '" ++ piece ++ "': " ++ cause.message
  | .atLine file line cause => file ++ ", line " ++ toString line ++ ": " ++ cause.message
  | .noRuleset name available =>
      "Ruleset '" ++ name ++ "' not found. Available rulesets: " ++
        (", " : Str).intercalate available
  | .noBase name referrer =>
      "Ruleset '" ++ name ++ "' not found (referenced by '" ++ referrer ++ "')"
  | .circular name => "Circular dependency detected in ruleset '" ++ name ++ "'"
  | .inRuleset name cause => "Ruleset '" ++ name ++ "': " ++ cause.message
  | .malformedYaml file => "Invalid YAML in " ++ file
  | .malformedFile file defects =>
      "Invalid rules file " ++ file ++ ": " ++ Defect.describeAll defects

end DepthRules.Rule
