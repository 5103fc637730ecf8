/-!
# Cutting text at a separator
-/

namespace DepthRules.Text

variable {α : Type} [DecidableEq α]

/-- The text before the first `sep`, and the text after it if there is one. -/
def splitFirst (sep : α) : List α → List α × Option (List α)
  | [] => ([], none)
  | c :: cs =>
      if c = sep then ([], some cs)
      else
        let (before, after) := splitFirst sep cs
        (c :: before, after)

/-- All pieces between separators; a text without one is a single piece. -/
def splitAll (sep : α) : List α → List (List α)
  | [] => [[]]
  | c :: cs =>
      if c = sep then [] :: splitAll sep cs
      else match splitAll sep cs with
        | [] => [[c]]
        | piece :: pieces => (c :: piece) :: pieces

@[simp] theorem splitFirst_nil (sep : α) : splitFirst sep [] = ([], none) := rfl

theorem splitFirst_cons_self (sep : α) (cs : List α) :
    splitFirst sep (sep :: cs) = ([], some cs) := by
  simp [splitFirst]

end DepthRules.Text
