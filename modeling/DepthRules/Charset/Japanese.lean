import DepthRules.Charset.Decoded
import DepthRules.Charset.Jis

/-!
# Encodings for Japanese

Shift JIS and its variant for Windows, and the extended Unix code: they write the same rows of
characters by different bytes.
-/

namespace DepthRules.Charset

/-- The halfwidth katakana of a byte. -/
def katakana? (b : UInt8) : Option Char :=
  (within? 0xA1 0xDF b).map fun n => Char.ofNat (0xFF61 + n)

/-- The character of a byte in the Japanese variant of ASCII. -/
def roman? (b : UInt8) : Option Char :=
  if b = 0x5C then some '¥' else if b = 0x7E then some '‾' else ascii? b

/-- The row and the column of a pair of bytes in Shift JIS. -/
def shiftedPlace? (lead trail : UInt8) : Option (Nat × Nat) := do
  let block ← (within? 0x81 0x9F lead).or ((within? 0xE0 0xFC lead).map (· + 31))
  let cell ← (within? 0x40 0x7E trail).or ((within? 0x80 0xFC trail).map (· + 63))
  return (2 * block + cell / 94 + 1, cell % 94)

/-- The first row that is left to users in Shift JIS, and the first after them. -/
def userRows : Nat × Nat := (95, 115)

/-- The character left to users in a row and a column. -/
def userCharacter? (row column : Nat) : Option Char :=
  if userRows.1 ≤ row && row < userRows.2 then
    some (Char.ofNat (0xE000 + 94 * (row - userRows.1) + column))
  else none

/-- Shift JIS. -/
def shiftJis : Code := fun b rest =>
  match (roman? b).or (katakana? b), rest with
  | some c, _ => some (c, 0)
  | none, [] => none
  | none, trail :: _ => do
      let (row, column) ← shiftedPlace? b trail
      let c ← (jis0208.character? row column).or (userCharacter? row column)
      return (c, 1)

/-- The places at which Windows has other characters than the standard. -/
def windowsJis : List ((Nat × Nat) × Char) :=
  [((1, 32), '～'), ((1, 33), '∥'), ((1, 60), '－'), ((1, 80), '￠'), ((1, 81), '￡'), ((2, 43), '￢')]

/-- The character in a row and a column on Windows. -/
def windowsJis? (row column : Nat) : Option Char :=
  (windowsJis.lookup (row, column)).or <|
    (jis0208.character? row column).or (jisVendor.character? row column)

/-- Shift JIS as on Windows. -/
def windows932 : Code := fun b rest =>
  match (ascii? b).or (katakana? b), rest with
  | some c, _ => some (c, 0)
  | none, [] => none
  | none, trail :: _ => do
      let (row, column) ← shiftedPlace? b trail
      let c ← (windowsJis? row column).or (userCharacter? row column)
      return (c, 1)

/-- The row, from one, and the column of two bytes with the high bit set. -/
def highPlace? (a b : UInt8) : Option (Nat × Nat) := do
  let row ← within? 0xA1 0xFE a
  let column ← within? 0xA1 0xFE b
  return (row + 1, column)

/-- The first row that is left to users in the extended Unix code. -/
def firstUserRow : Nat := 85

/-- The character in a row of a set, or one left to users, of which `first` is the first one. -/
def cellOrUser? (set : Grid) (first row column : Nat) : Option Char :=
  if row < firstUserRow then set.character? row column
  else some (Char.ofNat (first + 94 * (row - firstUserRow) + column))

/-- The extended Unix code for Japanese. -/
def eucJp : Code := fun b rest =>
  match ascii? b, rest with
  | some c, _ => some (c, 0)
  | none, [] => none
  | none, second :: rest =>
      if b = 0x8E then (katakana? second).map (·, 1)
      else if b = 0x8F then
        match rest with
        | [] => none
        | third :: _ => do
            let (row, column) ← highPlace? second third
            return (← cellOrUser? jis0212 0xE3AC row column, 2)
      else do
        let (row, column) ← highPlace? b second
        return (← cellOrUser? jis0208 0xE000 row column, 1)

end DepthRules.Charset
