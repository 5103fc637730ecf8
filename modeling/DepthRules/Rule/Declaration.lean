import DepthRules.Rule.Error

/-!
# Declarations

A declaration is a rule as it was written, with a label to show in reports. `Declaration.make`
refuses an empty tag and a tag that does not fit the kind, so that every declaration becomes a rule
without further checks (`toRule`).
-/

namespace DepthRules

/-- A rule read from text: kind, depth, tag and label. -/
structure Declaration where
  kind : Rule.Kind
  depth : Int
  tag : Option Str
  label : Str
  deriving DecidableEq, Repr

namespace Declaration

open Rule

/-- A declaration's text. -/
def text (d : Declaration) : Str := spelling d.kind d.depth d.tag

/-- The name a declaration has in messages: its label, or its text where the label is empty. -/
def caption (kind : Kind) (depth : Int) (tag : Option Str) (label : Str) : Str :=
  if label.isEmpty then spelling kind depth tag else label

/-- The declaration with these parts. -/
def make (kind : Kind) (depth : Int) (tag : Option Str) (label : Str) :
    Except ReadError Declaration :=
  if tag = some [] then .error (.emptyTag (caption kind depth tag label))
  else
    match checkName kind tag with
    | .error cause => .error (.nameMismatch (caption kind depth tag label) cause)
    | .ok () => .ok ⟨kind, depth, tag, label⟩

/-- The rule that is declared. -/
def toRule (d : Declaration) : Except NameError Rule := Rule.make d.kind d.depth d.tag

end Declaration

end DepthRules
