import DepthRules.Text.Blank
import DepthRules.Text.Digit

/-!
# Integer literals

An integer is written as an optional sign and decimal digits of any script, with single underscores
allowed between two digits, and blanks allowed around the whole. A literal of more than
`maxDigits` digits is refused, however many of them are leading zeros.
-/

namespace DepthRules.Text

/-- The greatest number of digits a literal may have. -/
def maxDigits : Nat := 4300

/-- The values of the digits of a text whose next character must be a digit. -/
def digitsAfterMark? : List Char → Option (List Nat)
  | [] => none
  | [c] => (decimalValue? c).map ([·])
  | c :: '_' :: rest => do
      let d ← decimalValue? c
      let ds ← digitsAfterMark? rest
      return d :: ds
  | c :: rest => do
      let d ← decimalValue? c
      let ds ← digitsAfterMark? rest
      return d :: ds

/-- The number written by decimal digits, most significant first. -/
def ofDigits (digits : List Nat) : Nat := digits.foldl (fun n d => 10 * n + d) 0

/-- The natural number a text of digits and underscores stands for. -/
def natLiteral? (cs : List Char) : Option Nat := do
  let digits ← digitsAfterMark? cs
  if digits.length ≤ maxDigits then some (ofDigits digits) else none

/-- The integer a text without surrounding blanks stands for. -/
def signedLiteral? : List Char → Option Int
  | '-' :: cs => (natLiteral? cs).map fun n : Nat => -(n : Int)
  | '+' :: cs => (natLiteral? cs).map fun n : Nat => (n : Int)
  | cs => (natLiteral? cs).map fun n : Nat => (n : Int)

/-- The integer a text stands for, blanks around it ignored. -/
def integerLiteral? (cs : List Char) : Option Int := signedLiteral? (trim cs)

end DepthRules.Text
