import DepthRules.Yaml.Fault
import DepthRules.Yaml.Spot

/-!
# Block scalars

After a bar or an angle, text goes on over all lines that are indented far enough: literally after a
bar, with lines joined after an angle. Marks after the bar or angle give the indentation and say
whether line ends at the end are kept, dropped, or made one.
-/

namespace DepthRules.Yaml

/-- What becomes of the line ends at the end of a block scalar. -/
inductive Chomping where
  | clip
  | strip
  | keep
  deriving DecidableEq, Repr

/-- The chomping a character marks. -/
def chomping? (c : Char) : Option Chomping :=
  if c == '+' then some .keep else if c == '-' then some .strip else none

/-- The indentation a digit marks. -/
def increment? (c : Char) : Option Nat :=
  if c.isDigit then some (c.toNat - '0'.toNat) else none

/-- The marks after the bar or angle: an indentation and a chomping, in either order. -/
def blockMarks (text : List Spot) : Chomping × Option Nat × List Spot :=
  match text with
  | [] => (.clip, none, [])
  | a :: rest =>
      match chomping? a.char, increment? a.char with
      | some chomping, _ =>
          match rest with
          | [] => (chomping, none, [])
          | b :: further =>
              match increment? b.char with
              | some n => (chomping, some n, further)
              | none => (chomping, none, rest)
      | none, some n =>
          match rest with
          | [] => (.clip, some n, [])
          | b :: further =>
              match chomping? b.char with
              | some chomping => (chomping, some n, further)
              | none => (.clip, some n, rest)
      | none, none => (.clip, none, a :: rest)

/-- The text after spaces and a comment, which must be at the end of a line. -/
def restOfLine (text : List Spot) : Except Fault (List Spot) :=
  let text := skip (· == ' ') text
  let text := if startsWith (· == '#') text then skip (!isLineEnd ·) text else text
  match text with
  | [] => .error .unfinished
  | s :: rest =>
      if isBreak s.char then .ok rest
      else if s.char == endMark then .ok text
      else .error .malformed

/-- The line ends and spaces before the first line that has other text: the line ends, the greatest
column reached, and the text after them. -/
def leadingBreaks : List Char → Nat → List Spot → List Char × Nat × List Spot
  | breaks, reached, [] => (breaks.reverse, reached, [])
  | breaks, reached, s :: rest =>
      if s.char == ' ' then leadingBreaks breaks (max reached (s.column + 1)) rest
      else if isBreak s.char then leadingBreaks (breakChar s.char :: breaks) reached rest
      else (breaks.reverse, reached, s :: rest)

/-- The line ends that stand here, with the spaces before column `indent` around them. -/
def blockBreaks (indent : Nat) : List Char → List Spot → List Char × List Spot
  | breaks, [] => (breaks.reverse, [])
  | breaks, s :: rest =>
      if s.char == ' ' && s.column < indent then blockBreaks indent breaks rest
      else if isBreak s.char then blockBreaks indent (breakChar s.char :: breaks) rest
      else (breaks.reverse, s :: rest)

/-- Whether a line of the scalar starts here. -/
def isBlockLine (indent : Nat) : List Spot → Bool
  | [] => false
  | s :: _ => s.column == indent && s.char != endMark

/-- The line end that stands here, if there is one, and the text after it. -/
def oneBreak : List Spot → List Char × List Spot
  | [] => ([], [])
  | s :: rest => if isBreak s.char then ([breakChar s.char], rest) else ([], s :: rest)

/-- What the end of a line counts as between two lines of the scalar. -/
def lineJoint (folded : Bool) (lineBreak breaks : List Char) (starts next : Bool) : List Char :=
  if folded && lineBreak == ['\n'] && starts && next then (if breaks.isEmpty then [' '] else [])
  else lineBreak

/-- The lines of a scalar, after those in `done`, which is backwards. Each line takes one unit of
fuel. -/
def blockLines (folded : Bool) (chomping : Chomping) (indent : Nat) :
    Nat → List Char → List Char → List Char → List Spot → List Char × List Spot
  | 0, done, _, _, text => (done.reverse, text)
  | fuel + 1, done, lineBreak, breaks, text =>
      if isBlockLine indent text then
        let done := breaks.reverse ++ done
        let starts := !startsWith isBlank text
        let (line, rest) := span (!isLineEnd ·) text
        let done := line.reverse ++ done
        let (lineBreak, rest) := oneBreak rest
        let (breaks, rest) := blockBreaks indent [] rest
        let joint :=
          if isBlockLine indent rest then
            lineJoint folded lineBreak breaks starts (!startsWith isBlank rest)
          else []
        blockLines folded chomping indent fuel (joint.reverse ++ done) lineBreak breaks rest
      else
        let tail := match chomping with
          | .strip => []
          | .clip => lineBreak
          | .keep => lineBreak ++ breaks
        (done.reverse ++ tail, text)

/-- The block scalar whose bar or angle has just been read, in a block at column `outer`, which is
-1 outside all blocks. -/
def blockScalar (folded : Bool) (outer : Int) (text : List Spot) :
    Except Fault (List Char × List Spot) := do
  let (chomping, increment, text) := blockMarks text
  if increment = some 0 then .error .malformed
  else if text.isEmpty then .error .unfinished
  else if !startsWith isSpaceOrEnd text then .error .malformed
  else
    let text ← restOfLine text
    let least := max 1 (outer + 1).toNat
    let (indent, breaks, text) := match increment with
      | some n =>
          let indent := least + n - 1
          let (breaks, rest) := blockBreaks indent [] text
          (indent, breaks, rest)
      | none =>
          let (breaks, reached, rest) := leadingBreaks [] 0 text
          (max least reached, breaks, rest)
    return blockLines folded chomping indent (text.length + 1) [] [] breaks text

end DepthRules.Yaml
