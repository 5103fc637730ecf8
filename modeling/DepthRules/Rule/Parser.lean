import DepthRules.Rule.Declaration
import DepthRules.Text.Integer
import DepthRules.Text.Lines
import DepthRules.Text.Lowercase
import DepthRules.Text.Split

/-!
# Reading rules

A rule is written `kind:depth[:tag]`. The kind is one of three words in any case, the depth an
integer literal that is not negative, and the tag everything after the second colon; blanks around
each part are dropped. Rules also come in lists with commas between them (`parseList`) and one to a
line of a text (`parseLines`).
-/

namespace DepthRules.Rule

open Text

/-- The kind a word stands for, in any case. -/
def readKind (word : Str) : Except ReadError Kind :=
  match Kind.ofWord? (lower word) with
  | some kind => .ok kind
  | none => .error (.unknownKind word)

/-- The depth given by an integer, if it is one; `shown` is how messages show what was given. -/
def acceptDepth (shown : String) : Option Int → Except ReadError Int
  | none => .error (.malformedDepth shown)
  | some depth => if depth < 0 then .error (.negativeDepth depth) else .ok depth

/-- The integer a text stands for. -/
def integer? (s : Str) : Option Int := s.chars?.bind integerLiteral?

/-- The depth a text stands for. -/
def readDepth (s : Str) : Except ReadError Int :=
  acceptDepth (String.ofList (quotedCodes s)) (integer? s)

/-- Reads a rule from its kind, depth and tag texts, and labels it with its own text. -/
def assemble (kindText depthText : Str) (tagText : Option Str) :
    Except ReadError Declaration := do
  let kind ← readKind (trim kindText)
  let depth ← readDepth (trim depthText)
  let tag := tagText.map trim
  Declaration.make kind depth tag (spelling kind depth tag)

/-- Reads a rule. -/
def parse (s : Str) : Except ReadError Declaration :=
  let s := trim s
  if s.isEmpty then .error .empty
  else
    match splitFirst ':'.toNat s with
    | (_, none) => .error (.incomplete s)
    | (kindText, some rest) =>
        let (depthText, tagText) := splitFirst ':'.toNat rest
        assemble kindText depthText tagText

/-- Reads the pieces of a list of rules, blank ones left out; the first that is no rule is named. -/
def parsePieces : List Str → Except ReadError (List Declaration)
  | [] => .ok []
  | piece :: pieces =>
      let piece := trim piece
      if piece.isEmpty then parsePieces pieces
      else
        match parse piece with
        | .error cause => .error (.inPiece piece cause)
        | .ok d => (parsePieces pieces).map (d :: ·)

/-- Reads rules with commas between them. -/
def parseList (s : Str) : Except ReadError (List Declaration) := parsePieces (splitAll ','.toNat s)

/-- Lines without a rule: blank ones and those that start with a number sign. -/
def isIdle : Str → Bool
  | [] => true
  | c :: _ => c == '#'.toNat

/-- Reads the lines of a rules file from line `number` on; an error names the file and the line. -/
def parseLinesFrom (file : String) : Nat → List Str → Except ReadError (List Declaration)
  | _, [] => .ok []
  | number, line :: rest =>
      let line := trim line
      if isIdle line then parseLinesFrom file (number + 1) rest
      else
        match parse line with
        | .error cause => .error (.atLine file number cause)
        | .ok d => (parseLinesFrom file (number + 1) rest).map (d :: ·)

/-- Reads the text of a rules file. -/
def parseLines (file : String) (cs : List Char) : Except ReadError (List Declaration) :=
  parseLinesFrom file 1 ((lines (unifyNewlines cs)).map Str.ofChars)

end DepthRules.Rule
