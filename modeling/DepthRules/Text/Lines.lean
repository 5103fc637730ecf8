import DepthRules.Str

/-!
# Lines

A text file is read with every line end turned into a line feed (`unifyNewlines`), and a text is
cut into lines at more places than that: the vertical and page breaks, three of the information
separators, the next-line control and the two Unicode separators end a line as well (`lines`).
-/

namespace DepthRules.Text

/-- Turns a carriage return, alone or before a line feed, into one line feed. -/
def unifyNewlines : List Char → List Char
  | [] => []
  | '\r' :: '\n' :: rest => '\n' :: unifyNewlines rest
  | c :: rest => (if c = '\r' then '\n' else c) :: unifyNewlines rest

/-- Characters that end a line. -/
def isLineEnd {α : Type} [Letter α] (c : α) : Bool :=
  let n := Letter.code c
  (10 ≤ n && n ≤ 13) || (28 ≤ n && n ≤ 30) || n == 0x85 || n == 0x2028 || n == 0x2029

/-- The lines of a text, with the line now open written backwards. A carriage return and
the line feed after it end one line, and a line end at the end of the text opens no further line. -/
def linesFrom : List Char → List Char → List (List Char) → List (List Char)
  | line, [], done => (if line.isEmpty then done else line.reverse :: done).reverse
  | line, '\r' :: '\n' :: rest, done => linesFrom [] rest (line.reverse :: done)
  | line, c :: rest, done =>
      if isLineEnd c then linesFrom [] rest (line.reverse :: done)
      else linesFrom (c :: line) rest done

/-- The lines of a text without their ends. -/
def lines (cs : List Char) : List (List Char) := linesFrom [] cs []

end DepthRules.Text
