import DepthRules.Charset.Decoded
import DepthRules.Charset.Japanese
import DepthRules.Charset.Ksx

/-!
# Encodings for Korean

The extended Unix code, its extension for Windows to all syllables, and an encoding that puts
syllables together from their letters.
-/

namespace DepthRules.Charset

/-- The character of two bytes with the high bit set. -/
def eucKrPair (a b : UInt8) : Option Char := do
  let (row, column) ← highPlace? a b
  ksx1001.character? row column

/-- The extended Unix code for Korean. -/
def eucKr : Code := asciiOr eucKrPair

/-- The code point of the first syllable. -/
def firstSyllable : Nat := 0xAC00

/-- The number of syllables. -/
def syllableCount : Nat := 11172

/-- The syllables of the standard set, which has them in order in 25 rows. -/
def standardSyllables : List Char :=
  (List.range 25).flatMap fun n => (ksx1001.rows.getD (16 + n) #[]).toList

/-- The syllables from a number on that are not among others, which go up. -/
def syllablesBesides : Nat → Nat → List Char → List Char
  | 0, _, _ => []
  | count + 1, n, [] => Char.ofNat n :: syllablesBesides count (n + 1) []
  | count + 1, n, other :: others =>
      if other.toNat = n then syllablesBesides count (n + 1) others
      else Char.ofNat n :: syllablesBesides count (n + 1) (other :: others)

/-- The syllables that the standard set does not have. -/
def furtherSyllables : Array Char :=
  (syllablesBesides syllableCount firstSyllable standardSyllables).toArray

/-- The columns of a row of further syllables, numbered by second bytes. -/
def furtherColumn? (b : UInt8) : Option Nat :=
  (within? 0x41 0x5A b).or <| ((within? 0x61 0x7A b).map (· + 26)).or <|
    (within? 0x81 0xFE b).map (· + 52)

/-- A further syllable. Rows have 178 of them, and from the first row of the standard set on only
those 84 that stand before the standard characters. -/
def furtherSyllable? (a b : UInt8) : Option Char := do
  let column ← furtherColumn? b
  match within? 0x81 0xA0 a, within? 0xA1 0xC6 a with
  | some row, _ => furtherSyllables[178 * row + column]?
  | none, some row => if column < 84 then furtherSyllables[178 * 32 + 84 * row + column]? else none
  | none, none => none

/-- A character left to users. -/
def koreanUser? (a b : UInt8) : Option Char := do
  let column ← within? 0xA1 0xFE b
  if a = 0xC9 then return Char.ofNat (0xE000 + column)
  else if a = 0xFE then return Char.ofNat (0xE05E + column)
  else none

/-- The extended Unix code with the further syllables. -/
def windows949 : Code :=
  asciiOr fun a b => (eucKrPair a b).or <| (furtherSyllable? a b).or (koreanUser? a b)

/-- The initial part that a group of five bits stands for, or `none` for no part. -/
def initialOf? (bits : Nat) : Option (Option Nat) :=
  if bits = 1 then some none
  else if 2 ≤ bits && bits ≤ 20 then some (some (bits - 2))
  else none

/-- The vowel that a group of five bits stands for, or `none` for no vowel. -/
def vowelOf? (bits : Nat) : Option (Option Nat) :=
  if bits = 2 then some none
  else if 2 < bits && bits ≤ 29 && 2 ≤ bits % 8 then some (some (6 * (bits / 8) + bits % 8 - 3))
  else none

/-- The final part that a group of five bits stands for, zero for none. -/
def finalOf? (bits : Nat) : Option Nat :=
  if 1 ≤ bits && bits ≤ 17 then some (bits - 1)
  else if 19 ≤ bits && bits ≤ 29 then some (bits - 2)
  else none

/-- The letters for initial parts on their own. -/
def initialLetters : List Char := "ㄱㄲㄴㄷㄸㄹㅁㅂㅃㅅㅆㅇㅈㅉㅊㅋㅌㅍㅎ".toList

/-- The final parts that are no initial ones, with their letters. -/
def finalLetters : List (Nat × Char) :=
  [(3, 'ㄳ'), (5, 'ㄵ'), (6, 'ㄶ'), (9, 'ㄺ'), (10, 'ㄻ'), (11, 'ㄼ'), (12, 'ㄽ'), (13, 'ㄾ'), (14, 'ㄿ'),
    (15, 'ㅀ'), (18, 'ㅄ')]

/-- A syllable, or a letter on its own, put together from three groups of five bits. -/
def assembled? (a b : UInt8) : Option Char := do
  let code := a.toNat * 256 + b.toNat
  let initial ← initialOf? (code / 1024 % 32)
  let vowel ← vowelOf? (code / 32 % 32)
  let last ← finalOf? (code % 32)
  match initial, vowel with
  | some i, some v => some (Char.ofNat (firstSyllable + (21 * i + v) * 28 + last))
  | some i, none => if last = 0 then initialLetters[i]? else none
  | none, some v => if last = 0 then some (Char.ofNat (0x314F + v)) else none
  | none, none => finalLetters.lookup last

/-- The row and column of the standard set that two bytes of the assembling encoding name. -/
def assembledPlace? (a b : UInt8) : Option (Nat × Nat) := do
  let block ← ((within? 0xD9 0xDE a).map (2 * ·)).or ((within? 0xE0 0xF9 a).map (2 * · + 41))
  let cell ← (within? 0x31 0x7E b).or ((within? 0x91 0xFE b).map (· + 78))
  if a = 0xDA && 0xA1 ≤ b && b ≤ 0xD3 then none
  return (block + cell / 94 + 1, cell % 94)

/-- The encoding that assembles syllables. Its backslash is the sign of the won. -/
def johab : Code := fun b rest =>
  if b = 0x5C then some ('₩', 0)
  else asciiOr (fun a second =>
    if a < 0xD8 then assembled? a second
    else (assembledPlace? a second).bind fun (row, column) => ksx1001.character? row column) b rest

end DepthRules.Charset
