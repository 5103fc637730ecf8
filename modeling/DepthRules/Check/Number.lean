import DepthRules.Text.Digit
import DepthRules.Text.Integer

/-!
# Numbers in settings

A whole number given as text may have a sign, zeros before its first digit, single underscores
between its digits, and a fraction of zeros; white space around it is dropped. Zeros at the
beginning are dropped first, together with underscores among them, and before a sign too, so that
`0-5` is minus five. Digits are those of ASCII, and those that are left count towards the limit.
-/

namespace DepthRules.Check

open Text

/-- The values of ASCII digits with single underscores between them. -/
def digits? : List Char → Option (List Nat)
  | [] => none
  | [c] => (asciiDigit? c).map ([·])
  | c :: '_' :: rest => do
      let d ← asciiDigit? c
      let ds ← digits? rest
      return d :: ds
  | c :: rest => do
      let d ← asciiDigit? c
      let ds ← digits? rest
      return d :: ds

/-- White space; the information separators, which are blanks elsewhere, are none. -/
def isWhiteSpace (c : Char) : Bool := isBlank c && !isSeparatorControl c

/-- The text without white space at either end. -/
def trimSpace (cs : List Char) : List Char :=
  ((cs.dropWhile isWhiteSpace).reverse.dropWhile isWhiteSpace).reverse

/-- The text without a fraction of zeros at its end, of which there must be at least one. -/
def dropZeroFraction (cs : List Char) : List Char :=
  let fraction := (cs.dropWhile (· != '.')).drop 1
  if !fraction.isEmpty && fraction.all (· == '0') then cs.takeWhile (· != '.') else cs

/-- The text without the zeros it starts with, and the underscores among them. Before a point and at
the end the last of these characters stays. -/
def dropZeros : List Char → List Char
  | '0' :: rest =>
      let more := rest.takeWhile fun c => c == '0' || c == '_'
      match rest.drop more.length with
      | [] => [more.getLastD '0']
      | '.' :: after => more.getLastD '0' :: '.' :: after
      | after => after
  | cs => cs

/-- Why a text is no whole number: it is not written like one, or has too many digits. -/
inductive NumberFault where
  | notWhole
  | tooLong
  deriving DecidableEq, Repr

/-- The natural number that digits without zeros before them stand for. -/
def natural (cs : List Char) : Except NumberFault Nat :=
  match digits? (dropZeroFraction (dropZeros cs)) with
  | none => .error .notWhole
  | some digits => if maxDigits < digits.length then .error .tooLong else .ok (ofDigits digits)

/-- The whole number that a text without a plus sign stands for. Zeros may stand before a minus sign
and after it, though not in both places. -/
def signed (cs : List Char) : Except NumberFault Int :=
  match dropZeros cs with
  | '-' :: rest =>
      match dropZeros rest with
      | '-' :: _ => .error .notWhole
      | digits => (natural digits).map fun n => -(n : Int)
  | digits => (natural digits).map fun n => (n : Int)

/-- The whole number a text stands for. -/
def wholeNumberOf (cs : List Char) : Except NumberFault Int :=
  match trimSpace cs with
  | '+' :: '-' :: _ => .error .notWhole
  | '+' :: rest => signed rest
  | rest => signed rest

end DepthRules.Check
