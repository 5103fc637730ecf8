import DepthRules.Yaml.Spot

/-!
# Plain scalars

A scalar without quotes goes on over blanks between its words and over line ends, as long as what
follows is no mark, no comment, and, outside brackets, not to the left of its block.
-/

namespace DepthRules.Yaml

/-- Characters that end a word inside brackets. -/
def endsFlowWord (c : Char) : Bool := c == '?' || isFlowMark c

/-- Whether a character with this text after it is part of a word. A colon is, unless it stands
where it could mark a value. -/
def isWordPart (flow : Bool) (c : Char) (rest : List Spot) : Bool :=
  !isBlankOrEnd c && !(flow && endsFlowWord c) &&
    !(c == ':' && startsWith (fun d => isBlankOrEnd d || (flow && isFlowMark d)) rest)

/-- The word that stands here, after the characters in `done`, and the rest. -/
def plainWord (flow : Bool) : List Char → List Spot → List Char × List Spot
  | done, [] => (done.reverse, [])
  | done, s :: rest =>
      if isWordPart flow s.char rest then plainWord flow (s.char :: done) rest
      else (done.reverse, s :: rest)

/-- What stands between two words: the characters it counts as, none if there is no further word,
the text after it, and whether a line ended in it. -/
structure Gap where
  between : List Char
  rest : List Spot
  newLine : Bool

/-- The characters several line ends count as: one line feed alone is a space, and of more line ends
the first counts only if it is not a line feed. -/
def foldBreaks (first : Char) (others : List Char) : List Char :=
  if first == '\n' then (if others.isEmpty then [' '] else others) else first :: others

/-- The further line ends after the `first` one in a gap, with spaces around them. A document marker
at the start of a line leaves no further word. A text that breaks off where that cannot be told is
used up. -/
def plainBreaks (first : Char) : Bool → List Char → List Spot → Gap
  | _, others, [] => ⟨foldBreaks first others.reverse, [], true⟩
  | lineStart, others, s :: rest =>
      if lineStart && !tellsMarker (s :: rest) then ⟨[], [], true⟩
      else if lineStart && isMarker (s :: rest) then ⟨[], s :: rest, true⟩
      else if s.char == ' ' then plainBreaks first false others rest
      else if isBreak s.char then plainBreaks first true (breakChar s.char :: others) rest
      else ⟨foldBreaks first others.reverse, s :: rest, true⟩

/-- What stands after a word. -/
def plainGap (text : List Spot) : Gap :=
  match span (· == ' ') text with
  | (spaces, s :: rest) =>
      if isBreak s.char then plainBreaks (breakChar s.char) true [] rest
      else ⟨spaces, s :: rest, false⟩
  | (spaces, []) => ⟨spaces, [], false⟩

/-- Whether a further word may stand here, at column `indent` or beyond outside brackets. -/
def plainGoesOn (flow : Bool) (indent : Int) : List Spot → Bool
  | [] => false
  | s :: _ => s.char != '#' && (flow || indent ≤ s.column)

/-- A scalar whose words so far are in `done`, backwards, and which goes on with a word after the
gap `between`. Each word takes one unit of fuel. The last component tells whether a line ended after
the last word. -/
def plainFrom (flow : Bool) (indent : Int) :
    Nat → List Char → List Char → List Spot → Bool → List Char × List Spot × Bool
  | 0, done, _, text, newLine => (done.reverse, text, newLine)
  | fuel + 1, done, between, text, newLine =>
      match plainWord flow [] text with
      | ([], _) => (done.reverse, text, newLine)
      | (word, rest) =>
          let done := word.reverse ++ (between.reverse ++ done)
          let gap := plainGap rest
          if !gap.between.isEmpty && plainGoesOn flow indent gap.rest then
            plainFrom flow indent fuel done gap.between gap.rest gap.newLine
          else (done.reverse, gap.rest, gap.newLine)

/-- The plain scalar that stands here, the text after it, and whether a line ended after it. -/
def plainScalar (flow : Bool) (indent : Int) (text : List Spot) : List Char × List Spot × Bool :=
  plainFrom flow indent text.length [] [] text false

end DepthRules.Yaml
