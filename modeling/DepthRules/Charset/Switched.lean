import DepthRules.Charset.Chinese
import DepthRules.Charset.Korean
import DepthRules.Charset.Pages

/-!
# Encodings that switch between sets

Encodings of bytes below 128 alone: sequences that begin with an escape tell from which set the
characters after them are.
-/

namespace DepthRules.Charset

/-- A set that bytes can be taken from, one or two at a time. -/
inductive CodeSet where
  | ascii
  | roman
  | katakana
  | jis0208
  | jisWindows
  | jis0212
  | gb2312
  | ksx1001
  | cnsFirst
  deriving DecidableEq, Repr

/-- The character of a set in a row, from one, and a column; none if the set has no rows. -/
def CodeSet.cell? : CodeSet → Nat → Nat → Option Char
  | .ascii, _, _ | .roman, _, _ | .katakana, _, _ => none
  | .jis0208, row, column => Charset.jis0208.character? row column
  | .jisWindows, row, column => windowsJis? row column
  | .jis0212, row, column => Charset.jis0212.character? row column
  | .gb2312, row, column => gb2312? row column
  | .ksx1001, row, column => Charset.ksx1001.character? row column
  | .cnsFirst, row, column => Charset.cnsFirst.character? row column

/-- The character of a byte below 128 in a set without rows. -/
def CodeSet.single? : CodeSet → UInt8 → Option Char
  | .roman, b => roman? b
  | .katakana, b => if b < 0x80 then Charset.katakana? (b + 0x80) else none
  | _, b => ascii? b

/-- Whether the bytes of a set come in pairs. -/
def CodeSet.isPaired : CodeSet → Bool
  | .ascii | .roman | .katakana => false
  | _ => true

/-- The code of a set: one byte, or two that give a row and a column. -/
def CodeSet.code? (set : CodeSet) (b : UInt8) (rest : List UInt8) : Option (Char × Nat) :=
  if set.isPaired then
    match rest with
    | [] => none
    | second :: _ => do
        let row ← within? 0x21 0x7E b
        let column ← within? 0x21 0x7E second
        return (← set.cell? (row + 1) column, 1)
  else (set.single? b).map (·, 0)

/-- The byte that begins a sequence which switches. -/
def escapeByte : UInt8 := 0x1B

/-- Whether a byte ends a line. -/
def endsLine (b : UInt8) : Bool := b = 0x0A || b = 0x0D

/-! ## Japanese -/

/-- The Japanese encodings that switch: the first one, two with more sets, and that of Windows. -/
inductive JapaneseVariant where
  | basic
  | first
  | second
  | windows
  deriving DecidableEq, Repr

/-- The sequences, without the escape, that all variants have. -/
def commonSwitches (rows : CodeSet) : List (List UInt8 × CodeSet) :=
  [([0x28, 0x42], .ascii), ([0x28, 0x4A], .roman), ([0x24, 0x40], rows), ([0x24, 0x42], rows)]

/-- The sequence for the second Japanese set. -/
def secondSwitch : List UInt8 × CodeSet := ([0x24, 0x28, 0x44], .jis0212)

/-- The sequences, without the escape, after which a set is used, in a variant. -/
def JapaneseVariant.switches : JapaneseVariant → List (List UInt8 × CodeSet)
  | .basic => commonSwitches .jis0208
  | .first => commonSwitches .jis0208 ++ [secondSwitch]
  | .second => commonSwitches .jis0208 ++
      [secondSwitch, ([0x24, 0x41], .gb2312), ([0x24, 0x28, 0x43], .ksx1001)]
  | .windows => commonSwitches .jisWindows ++ [secondSwitch, ([0x28, 0x49], .katakana)]

/-- The sets whose upper halves single characters can be taken from. -/
inductive UpperHalf where
  | latin
  | greek
  deriving DecidableEq, Repr

/-- The character of a byte below 128 in an upper half. -/
def UpperHalf.character? (half : UpperHalf) (b : UInt8) : Option Char :=
  if b < 0x20 || 0x80 ≤ b then none
  else match half with
    | .latin => some (Char.ofNat (b.toNat + 0x80))
    | .greek => (pages.find? fun page => page.names.contains "greek").bind fun page =>
        page.character? (b + 0x80)

/-- The set in use, and the upper half that is at hand until the end of the line. -/
structure JapaneseState where
  set : CodeSet
  upper : Option UpperHalf

/-- A step in a variant of the Japanese encoding. -/
def japaneseStep (variant : JapaneseVariant) : Step JapaneseState := fun state b rest =>
  if b = escapeByte then
    match variant.switches.find? fun s => s.1.isPrefixOf rest with
    | some (sequence, set) => some ({ state with set := set }, [], sequence.length)
    | none =>
        if variant ≠ .second then none
        else match rest, state.upper with
          | 0x2E :: 0x41 :: _, _ => some ({ state with upper := some .latin }, [], 2)
          | 0x2E :: 0x46 :: _, _ => some ({ state with upper := some .greek }, [], 2)
          | 0x4E :: c :: _, some half => (half.character? c).map fun c => (state, [c], 2)
          | _, _ => none
  else
    (state.set.code? b rest).map fun (c, more) =>
      ({ state with upper := if endsLine b then none else state.upper }, [c], more)

/-- A Japanese encoding that switches. -/
def iso2022Jp (variant : JapaneseVariant) (bytes : List UInt8) : Decoded :=
  decodeFrom (japaneseStep variant) ⟨.ascii, none⟩ [] bytes

/-! ## Korean and Chinese -/

/-- The byte that switches to the designated set, and the one that switches back to ASCII. -/
def shiftOut : UInt8 := 0x0E

/-- The byte that switches back to ASCII. -/
def shiftIn : UInt8 := 0x0F

/-- Whether the designated set is in use, which set that is, and whether a second set is at hand. -/
structure ShiftState where
  shifted : Bool
  designated : Option CodeSet
  second : Bool

/-- A step of an encoding with one designated set at a time: `designations` are the sequences,
without the escape, that designate sets, and `reset` tells whether a line end undoes that. The
second set, if it is at hand, is the second plane of CNS 11643. -/
def shiftStep (designations : List (List UInt8 × CodeSet)) (reset : Bool) : Step ShiftState :=
  fun state b rest =>
    if b = escapeByte then
      match designations.find? fun s => s.1.isPrefixOf rest with
      | some (sequence, set) => some ({ state with designated := some set }, [], sequence.length)
      | none =>
          if !reset then none
          else match rest with
            | 0x24 :: 0x2A :: 0x48 :: _ => some ({ state with second := true }, [], 3)
            | 0x4E :: a :: c :: _ =>
                if !state.second then none
                else do
                  let row ← within? 0x21 0x7E a
                  let column ← within? 0x21 0x7E c
                  return (state, [← cns? 2 (row + 1) column], 3)
            | _ => none
    else if b = shiftOut then
      if state.designated.isSome then some ({ state with shifted := true }, [], 0) else none
    else if b = shiftIn then some ({ state with shifted := false }, [], 0)
    else
      let set := if state.shifted then state.designated.getD .ascii else .ascii
      (set.code? b rest).map fun (c, more) =>
        (if reset && endsLine b then ⟨state.shifted, none, false⟩ else state, [c], more)

/-- The Korean encoding that switches. -/
def iso2022Kr (bytes : List UInt8) : Decoded :=
  decodeFrom (shiftStep [([0x24, 0x29, 0x43], .ksx1001)] false) ⟨false, none, false⟩ [] bytes

/-- The Chinese encoding that switches. -/
def iso2022Cn (bytes : List UInt8) : Decoded :=
  decodeFrom (shiftStep [([0x24, 0x29, 0x41], .gb2312), ([0x24, 0x29, 0x47], .cnsFirst)] true)
    ⟨false, none, false⟩ [] bytes

/-- A step of the Chinese encoding in which tildes with braces around them switch; the state tells
whether characters are Chinese. A tilde before a line end joins two lines. -/
def hzStep : Step Bool := fun chinese b rest =>
  if b = 0x7E then
    match chinese, rest with
    | false, 0x7E :: _ => some (false, ['~'], 1)
    | false, 0x7B :: _ => some (true, [], 1)
    | false, 0x0A :: _ => some (false, [], 1)
    | true, 0x7D :: _ => some (false, [], 1)
    | _, _ => none
  else
    ((if chinese then CodeSet.gb2312 else .ascii).code? b rest).map fun (c, more) =>
      (chinese, [c], more)

/-- The Chinese encoding that switches by tildes. -/
def hz (bytes : List UInt8) : Decoded := decodeFrom hzStep false [] bytes

end DepthRules.Charset
