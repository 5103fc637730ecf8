import DepthRules.Rule.Kind
import DepthRules.Str

/-!
# Rules

A rule fires at nodes of one depth. Element and content rules name the element they match, comment
rules have no name; `Rule.make` builds a rule only where that is so.
-/

namespace DepthRules

/-- A rule: its kind, the level of the nodes it matches, and the name of the element it matches. -/
structure Rule where
  kind : Rule.Kind
  depth : Int
  name : Option Str
  deriving DecidableEq, Repr

namespace Rule

/-- How a rule's kind and name can disagree. -/
inductive NameError where
  | unwanted
  | missing (kind : Kind)
  deriving DecidableEq, Repr

/-- The wording of a disagreement. -/
def NameError.message : NameError → String
  | .unwanted => "Comment rules cannot be declared with a name"
  | .missing kind => kind.title ++ " rules must be declared with a name"

/-- Refuses a name on a comment rule and a missing name on any other. -/
def checkName : Kind → Option Str → Except NameError Unit
  | .comment, some _ => .error .unwanted
  | .comment, none => .ok ()
  | _, some _ => .ok ()
  | kind, none => .error (.missing kind)

/-- A rule's text: kind and depth, and the name if it has one, with colons between. -/
def spelling (kind : Kind) (depth : Int) (name : Option Str) : Str :=
  match name with
  | none => kind.word ++ ":" ++ toString depth
  | some name => kind.word ++ ":" ++ toString depth ++ ":" ++ name

/-- The rule of this kind, depth and name. -/
def make (kind : Kind) (depth : Int) (name : Option Str) : Except NameError Rule :=
  (checkName kind name).map fun _ => ⟨kind, depth, name⟩

/-- A rule given the attributes of the elements it matches. -/
def element (depth : Int) (name : Option Str) : Except NameError Rule := make .element depth name

/-- A rule given the text of the elements it matches. -/
def content (depth : Int) (name : Option Str) : Except NameError Rule := make .content depth name

/-- A rule given the text of comments. -/
def comment (depth : Int) : Except NameError Rule := make .comment depth none

/-- Whether a rule applies to a node other than a comment, by level and name alone. -/
def appliesTo (r : Rule) (level : Int) (name : Option Str) : Bool :=
  r.depth == level && r.name == name

/-- A rule's text. -/
def text (r : Rule) : Str := spelling r.kind r.depth r.name

end Rule

end DepthRules
