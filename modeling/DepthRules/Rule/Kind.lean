import DepthRules.Str

/-!
# Kinds of rule
-/

namespace DepthRules

/-- What a rule matches and what its handler is given: an element with its attributes, an element
with its text, or a comment with its text. -/
inductive Rule.Kind where
  | element
  | content
  | comment
  deriving DecidableEq, Repr, Inhabited

namespace Rule.Kind

/-- All kinds, in the order messages list them. -/
def all : List Kind := [.element, .content, .comment]

/-- The word a kind is written with. -/
def word : Kind → String
  | .element => "element"
  | .content => "content"
  | .comment => "comment"

/-- The word with a capital, for the start of a sentence. -/
def title : Kind → String
  | .element => "Element"
  | .content => "Content"
  | .comment => "Comment"

/-- The kind with the given word. -/
def ofWord? (word : Str) : Option Kind := all.find? fun kind => kind.word == word

@[simp] theorem ofWord?_word (k : Kind) : ofWord? k.word = some k := by cases k <;> rfl

end Rule.Kind

end DepthRules
