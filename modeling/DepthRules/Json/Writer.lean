import DepthRules.Decimal.Notation
import DepthRules.Json.Basic
import DepthRules.Text.Hex
import DepthRules.Text.Integer

/-!
# Writing JSON

The text is pure ASCII: code points outside it are written by the code units of UTF-16. `compact`
writes a value on one line, `pretty` with one item to a line and two spaces for each level. A value
with an integer of more digits than are ever written has no text.
-/

namespace DepthRules.Json

open Text Decimal

/-- The escape of one code unit. -/
def unitEscape (n : Nat) : List Char := '\\' :: 'u' :: hexDigits 4 n

/-- How one code point of a text is written. -/
def escapedCode (n : Nat) : List Char :=
  if n == '"'.toNat then ['\\', '"']
  else if n == '\\'.toNat then ['\\', '\\']
  else if n == '\n'.toNat then ['\\', 'n']
  else if n == '\r'.toNat then ['\\', 'r']
  else if n == '\t'.toNat then ['\\', 't']
  else if n == 0x8 then ['\\', 'b']
  else if n == 0xC then ['\\', 'f']
  else if 0x20 ≤ n && n ≤ 0x7E then [Char.ofNat n]
  else if n < 0x10000 then unitEscape n
  else unitEscape (0xD800 + (n - 0x10000) / 0x400) ++ unitEscape (0xDC00 + (n - 0x10000) % 0x400)

/-- A text between quotes. -/
def writtenString (s : Str) : List Char := '"' :: (s.flatMap escapedCode ++ ['"'])

/-- An integer in decimal. -/
def writtenInt (i : Int) : List Char :=
  if i < 0 then '-' :: digitsOf i.natAbs else digitsOf i.natAbs

/-- A value that is neither an array nor an object. -/
def writtenScalar : Json → List Char
  | .null => "null".toList
  | .bool b => if b then "true".toList else "false".toList
  | .int i => writtenInt i
  | .real x => x.written
  | .str s => writtenString s
  | .arr _ => []
  | .obj _ => []

mutual

/-- The value on one line. -/
def compact : Json → List Char
  | .arr items => '[' :: (compactItems true items ++ [']'])
  | .obj members => '\x7b' :: (compactMembers true members ++ ['\x7d'])
  | j => writtenScalar j

/-- Items with a comma and a space before each but the first. -/
def compactItems (first : Bool) : List Json → List Char
  | [] => []
  | j :: rest => (if first then [] else [',', ' ']) ++ compact j ++ compactItems false rest

/-- Members with a comma and a space before each but the first. -/
def compactMembers (first : Bool) : List (Str × Json) → List Char
  | [] => []
  | (name, j) :: rest =>
      (if first then [] else [',', ' ']) ++ writtenString name ++ [':', ' '] ++ compact j ++
        compactMembers false rest

end

/-- A line end and the spaces that a line at `level` starts with. -/
def newline (level : Nat) : List Char := '\n' :: List.replicate (2 * level) ' '

mutual

/-- The value over several lines, its own lines starting at `level`. -/
def pretty (level : Nat) : Json → List Char
  | .arr [] => ['[', ']']
  | .obj [] => ['\x7b', '\x7d']
  | .arr (j :: rest) =>
      '[' :: (newline (level + 1) ++ pretty (level + 1) j ++ prettyItems (level + 1) rest ++
        newline level ++ [']'])
  | .obj ((name, j) :: rest) =>
      '\x7b' :: (newline (level + 1) ++ writtenString name ++ [':', ' '] ++ pretty (level + 1) j ++
        prettyMembers (level + 1) rest ++ newline level ++ ['\x7d'])
  | j => writtenScalar j

/-- Further items, each after a comma and on a line of its own. -/
def prettyItems (level : Nat) : List Json → List Char
  | [] => []
  | j :: rest => ',' :: (newline level ++ pretty level j ++ prettyItems level rest)

/-- Further members, each after a comma and on a line of its own. -/
def prettyMembers (level : Nat) : List (Str × Json) → List Char
  | [] => []
  | (name, j) :: rest =>
      ',' :: (newline level ++ writtenString name ++ [':', ' '] ++ pretty level j ++
        prettyMembers level rest)

end

/-- The value on one line, as a string. -/
def toCompactString (j : Json) : String := String.ofList (compact j)

/-- The value over several lines, as a string. -/
def toPrettyString (j : Json) : String := String.ofList (pretty 0 j)

mutual

/-- Whether no integer in a value has more than `most` digits, if there is such a limit. -/
def fits (most : Option Nat) : Json → Bool
  | .int i => most.all fun most => decide ((digitsOf i.natAbs).length ≤ most)
  | .arr items => fitsItems most items
  | .obj members => fitsMembers most members
  | _ => true

/-- Whether no integer in any of the items has more digits. -/
def fitsItems (most : Option Nat) : List Json → Bool
  | [] => true
  | j :: rest => fits most j && fitsItems most rest

/-- Whether no integer in any of the members has more digits. -/
def fitsMembers (most : Option Nat) : List (Str × Json) → Bool
  | [] => true
  | (_, j) :: rest => fits most j && fitsMembers most rest

end

/-- The text of a value, over several lines if `pretty`, if all its integers can be written. -/
def toString? (most : Option Nat) (pretty : Bool) (j : Json) : Option String :=
  if j.fits most then some (if pretty then j.toPrettyString else j.toCompactString) else none

end DepthRules.Json
