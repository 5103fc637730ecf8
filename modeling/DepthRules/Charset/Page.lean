import DepthRules.Charset.Grid

/-!
# Pages

Encodings with one byte to a character. Some write a letter with a mark by two bytes, which are
joined to one character if there is one.
-/

namespace DepthRules.Charset

/-- An encoding with one byte to a character, which agrees with Latin-1 up to some byte: its names
in lower case, the first byte of its table, and the characters of the table in order. -/
structure Page where
  names : List String
  first : Nat
  characters : String
  deriving DecidableEq, Repr

/-- The character of a byte, if there is one. -/
def Page.character? (page : Page) (byte : UInt8) : Option Char :=
  let n := byte.toNat
  if n < page.first then some (Char.ofNat n)
  else (page.characters.toList[n - page.first]?).filter (· ≠ missing)

/-- Marks, each with letters and what each of them becomes with the mark, and the results that can
take a further mark. -/
structure Marks where
  joins : List (Char × String)
  furthered : String
  deriving DecidableEq, Repr

/-- What a letter in a list of letters, each followed by its result, becomes. -/
def resultOf? (letter : Char) : List Char → Option Char
  | l :: result :: rest => if l = letter then some result else resultOf? letter rest
  | _ => none

/-- A letter and a mark as one character. -/
def Marks.joined? (marks : Marks) (letter mark : Char) : Option Char :=
  (marks.joins.lookup mark).bind fun letters => resultOf? letter letters.toList

/-- The text with marks joined to the letters before them. -/
def Marks.join (marks : Marks) (text : List Char) : List Char :=
  match text with
  | [] => []
  | [c] => [c]
  | letter :: mark :: rest =>
      match marks.joined? letter mark with
      | none => letter :: marks.join (mark :: rest)
      | some c =>
          if marks.furthered.toList.contains c then marks.join (c :: rest)
          else c :: marks.join rest
  termination_by text.length

/-- A page in which marks are written apart from their letters. -/
structure MarkedPage where
  page : Page
  marks : Marks
  deriving DecidableEq, Repr

end DepthRules.Charset
