/-!
# Text with positions

A document is read as a list of spots: its characters, each with the line and the column it stands
at. A byte order mark takes no column, and one at the very start of a document is no part of it.
Where a document is complete its last spot is a mark of its own for the end. A list without it
breaks off: there what follows is not known, and nothing that depends on it can be told.
-/

namespace DepthRules.Yaml

/-- A character with its number in the text, its line and its column, all from zero. -/
structure Spot where
  char : Char
  index : Nat
  line : Nat
  column : Nat

/-- The byte order mark. -/
def byteOrderMark : Char := '\ufeff'

/-- What stands at the end of a complete text. No document may hold this character itself. -/
def endMark : Char := '\x00'

/-- Characters that end a line. Carriage returns are gone by the time a document is read. -/
def isBreak (c : Char) : Bool :=
  c == '\n' || c == '\x85' || c == '\u2028' || c == '\u2029'

/-- A space or a tab. -/
def isBlank (c : Char) : Bool := c == ' ' || c == '\t'

/-- The end of a line or of the text. -/
def isLineEnd (c : Char) : Bool := isBreak c || c == endMark

/-- A blank, or the end of a line or of the text. -/
def isBlankOrEnd (c : Char) : Bool := isBlank c || isLineEnd c

/-- A space, or the end of a line or of the text. -/
def isSpaceOrEnd (c : Char) : Bool := c == ' ' || isLineEnd c

/-- The marks of collections written between brackets. -/
def isFlowMark (c : Char) : Bool := c == ',' || c == '[' || c == ']' || c == '\x7b' || c == '\x7d'

/-- The characters of names: ASCII letters and digits, hyphen and underscore. -/
def isWordChar (c : Char) : Bool := c.isAlphanum || c == '-' || c == '_'

/-- The character that the end of a line stands for. -/
def breakChar (c : Char) : Char := if c == '\x85' then '\n' else c

/-- Characters a document may hold: everything but most control characters, surrogates and the two
last code points of the first plane. -/
def isPermitted (c : Char) : Bool :=
  let n := c.toNat
  n == 9 || n == 10 || n == 13 || (0x20 ≤ n && n ≤ 0x7E) || n == 0x85 ||
    (0xA0 ≤ n && n ≤ 0xFFFD) || 0x10000 ≤ n

/-- The spots of a text of which so many characters and lines have gone before, read backwards. -/
def spotsFrom : Nat → Nat → Nat → List Char → List Spot → List Spot
  | _, _, _, [], done => done.reverse
  | index, line, column, c :: rest, done =>
      let done := ⟨c, index, line, column⟩ :: done
      if isBreak c then spotsFrom (index + 1) (line + 1) 0 rest done
      else if c == byteOrderMark then spotsFrom (index + 1) line column rest done
      else spotsFrom (index + 1) line (column + 1) rest done

/-- The spots of a document of which this is all, or the part before it breaks off. -/
def spots (text : List Char) (complete : Bool) : List Spot :=
  let text := if complete then text ++ [endMark] else text
  match text with
  | [] => []
  | c :: rest =>
      if c == byteOrderMark then spotsFrom 0 0 0 rest [] else spotsFrom 0 0 0 (c :: rest) []

/-- Whether the text goes on with a character of a class. -/
def startsWith (p : Char → Bool) : List Spot → Bool
  | [] => false
  | s :: _ => p s.char

/-- Whether the text begins with one character three times. -/
def isTriple (c : Char) : List Spot → Bool
  | a :: b :: d :: _ => a.char == c && b.char == c && d.char == c
  | _ => false

/-- Whether a document marker made of one character three times stands here. -/
def isMarkerOf (c : Char) (text : List Spot) : Bool :=
  isTriple c text && startsWith isBlankOrEnd (text.drop 3)

/-- Whether a marker of the start or the end of a document stands here. -/
def isMarker (text : List Spot) : Bool := isMarkerOf '-' text || isMarkerOf '.' text

/-- Whether so much of the text is there that it can be told whether a marker stands here: its end,
or three characters, and one more if the three make a marker. -/
def tellsMarker (text : List Spot) : Bool :=
  let ahead := text.take 3
  (ahead.any fun s => s.char == endMark) || !(text.drop 3).isEmpty ||
    (ahead.length == 3 && !isTriple '-' ahead && !isTriple '.' ahead)

/-- The characters of a class the text goes on with, after those in `done`, and the rest. -/
def spanFrom (p : Char → Bool) : List Char → List Spot → List Char × List Spot
  | done, [] => (done.reverse, [])
  | done, s :: rest =>
      if p s.char then spanFrom p (s.char :: done) rest else (done.reverse, s :: rest)

/-- The characters of a class the text goes on with, and the rest. -/
def span (p : Char → Bool) (text : List Spot) : List Char × List Spot := spanFrom p [] text

/-- The text after the characters of a class. -/
def skip (p : Char → Bool) (text : List Spot) : List Spot := text.dropWhile fun s => p s.char

end DepthRules.Yaml
