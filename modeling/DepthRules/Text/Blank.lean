import DepthRules.Str

/-!
# Blank characters

The characters that count as blank are those of the Unicode white-space class together with the
four information separators. Text is trimmed of them at both ends (`trim`) and cut into words at
runs of them (`words`).
-/

namespace DepthRules.Text

variable {α : Type} [Letter α]

/-- Blank characters: the line and tab controls, the information separators, the space and the
space characters outside ASCII. -/
def isBlank (c : α) : Bool :=
  let n := Letter.code c
  (9 ≤ n && n ≤ 13) || (28 ≤ n && n ≤ 32) || n == 0x85 || n == 0xA0 || n == 0x1680 ||
    (0x2000 ≤ n && n ≤ 0x200A) || n == 0x2028 || n == 0x2029 || n == 0x202F || n == 0x205F ||
    n == 0x3000

/-- The four information separators, which are controls and not of the white-space class. -/
def isSeparatorControl (c : α) : Bool := 28 ≤ Letter.code c && Letter.code c ≤ 31

/-- The text without the blanks it starts with. -/
def trimLeft (cs : List α) : List α := cs.dropWhile isBlank

/-- The text without the blanks it ends with. -/
def trimRight (cs : List α) : List α := (cs.reverse.dropWhile isBlank).reverse

/-- The text without the blanks at either end. -/
def trim (cs : List α) : List α := trimRight (trimLeft cs)

/-- Puts a finished word in front of the words after it; the empty word is no word. -/
def closeWord (word : List α) (later : List (List α)) : List (List α) :=
  if word.isEmpty then later else word :: later

/-- Reads a text backwards: `word` is the word now open and `later` are the words after it. -/
def wordsBefore : List α → List α → List (List α) → List (List α)
  | [], word, later => closeWord word later
  | c :: rest, word, later =>
      if isBlank c then wordsBefore rest [] (closeWord word later)
      else wordsBefore rest (c :: word) later

/-- The maximal runs of characters that are not blank, in order. -/
def words (cs : List α) : List (List α) := wordsBefore cs.reverse [] []

/-- The words of a text with one space between neighbours. -/
def collapse (s : Str) : Str := (" " : Str).intercalate (words s)

@[simp] theorem trimLeft_nil : trimLeft ([] : List α) = [] := rfl

@[simp] theorem trimRight_nil : trimRight ([] : List α) = [] := rfl

@[simp] theorem trim_nil : trim ([] : List α) = [] := rfl

@[simp] theorem words_nil : words ([] : List α) = [] := rfl

end DepthRules.Text
