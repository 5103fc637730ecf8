import DepthRules.Check.Field
import DepthRules.Rule.Parser
import DepthRules.Rule.Ruleset

/-!
# Rulesets from data

The shape of a rules file: a mapping with a field `rulesets`, itself a mapping from names to
rulesets. A ruleset and its list of rules may be left empty; a rule has a kind and a depth and may
have a tag and a label, which stand for their texts whatever type they have. What is wrong with a
file is told by its defects, unless a kind with surrogates is shown by one of them.
-/

namespace DepthRules.Rule

open Check Text

/-- A defect found by a rule's own reader. -/
def refuseValue {α : Type} (message : Str) : Checked α := refuse (Defect.valueError ++ message)

/-- The text a value stands for. -/
def checkPlain (v : Value) : Checked Str :=
  match v.plain? with
  | some s => .ok s
  | none => refuseValue Value.tooManyDigits

/-- The kind a value stands for by its text. -/
def checkKind (v : Value) : Checked Kind := do
  match readKind (← checkPlain v) with
  | .ok kind => .ok kind
  | .error cause => refuseValue cause.message

/-- The integer a value stands for by its text; truth values stand for none. -/
def depthLiteral? (v : Value) : Option Int :=
  match v with
  | .bool _ => none
  | v => v.plain?.bind fun s => integer? (trim s)

/-- The depth a value stands for. -/
def checkDepth (v : Value) : Checked Int :=
  match v.written? with
  | none => refuseValue Value.tooManyDigits
  | some shown =>
      match acceptDepth (String.ofList shown) (depthLiteral? v.content) with
      | .ok depth => .ok depth
      | .error cause => refuseValue cause.message

/-- A text that may be missing; null counts as missing, and any other value as its text. -/
def checkScalar (v : Value) : Checked (Option Str) :=
  match v.content with
  | .null => .ok none
  | _ => (checkPlain v).map some

/-- A rule of a ruleset. -/
def Entry.check (v : Value) : Checked Entry := do
  let entries ← fieldsOf "RuleEntry" v
  let (kind, depth, tag, label) ←
    Checked.both (required entries "kind" checkKind) <|
    Checked.both (required entries "depth" checkDepth) <|
    Checked.both (optional entries "tag" none checkScalar)
      (optional entries "label" none checkScalar)
  return ⟨kind, depth, tag, label⟩

/-- The rules of a ruleset, none for null. -/
def checkRules (v : Value) : Checked (List Entry) :=
  match v.content with
  | .null => .ok []
  | v => Check.list Entry.check v

/-- A ruleset, an empty one for null. -/
def Ruleset.check (v : Value) : Checked Ruleset :=
  match v.content with
  | .null => .ok ⟨none, []⟩
  | v => do
      let entries ← fieldsOf "Ruleset" v
      let (base, rules) ←
        Checked.both (optional entries "extends" none textOrNull)
          (optional entries "rules" [] checkRules)
      return ⟨base, rules⟩

/-- A rules file. -/
def RulesFile.check (v : Value) : Checked RulesFile := do
  let entries ← fieldsOf "RulesFile" v
  return ⟨← required entries "rulesets" (mapping Ruleset.check)⟩

/-- The rules file that data is. -/
def RulesFile.read (v : Value) : Except Refusal RulesFile := (RulesFile.check v).told

end DepthRules.Rule
