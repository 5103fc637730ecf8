import DepthRules.Charset.Decoded
import DepthRules.Text.Base64
import DepthRules.Text.Hex

/-!
# Encodings by escapes

Encodings that write all characters by bytes of ASCII: by base 64 between a plus sign and a hyphen,
or by numbers after backslashes.
-/

namespace DepthRules.Charset

open Text

/-! ## Base 64 -/

/-- The bits of an escaped part that do not make up a unit of 16 yet, how many there are, whether
some digit belongs to no character yet, and the first half of a pair of units. -/
structure Bits where
  value : Nat
  count : Nat
  begun : Bool
  high : Option Nat

/-- Whether a byte can stand for itself. -/
def isDirect (b : UInt8) : Bool :=
  b = 0x09 || b = 0x0A || b = 0x0D ||
    (0x20 ≤ b && b < 0x7E && b ≠ 0x2B && b ≠ 0x5C)

/-- A step outside escaped parts. -/
def directStep (b : UInt8) (rest : List UInt8) : Option (Option Bits × List Char × Nat) :=
  if isDirect b then some (none, [Char.ofNat b.toNat], 0)
  else if b ≠ 0x2B then none
  else match rest with
    | 0x2D :: _ => some (none, ['+'], 1)
    | _ => some (some ⟨0, 0, false, none⟩, [], 0)

/-- The state after a unit, and the character that is then complete. -/
def Bits.unit (bits : Bits) (unit : Nat) : Option (Bits × List Char) :=
  let isHigh := 0xD800 ≤ unit && unit < 0xDC00
  let isLow := 0xDC00 ≤ unit && unit < 0xE000
  match bits.high with
  | some high =>
      if isLow then
        some ({ bits with begun := false, high := none },
          [Char.ofNat (0x10000 + (high - 0xD800) * 0x400 + (unit - 0xDC00))])
      else none
  | none =>
      if isHigh then some ({ bits with high := some unit }, [])
      else if isLow then none
      else some ({ bits with begun := false }, [Char.ofNat unit])

/-- The state after a digit, and the character that is then complete. -/
def Bits.add (bits : Bits) (digit : Nat) : Option (Bits × List Char) :=
  let value := bits.value * 64 + digit
  let count := bits.count + 6
  if count < 16 then some ({ bits with value, count, begun := true }, [])
  else
    let left := Nat.pow 2 (count - 16)
    Bits.unit { bits with value := value % left, count := count - 16, begun := true } (value / left)

/-- A step of the encoding with base 64. -/
def utf7Step : Step (Option Bits) := fun state b rest =>
  match state with
  | none => directStep b rest
  | some bits =>
      match base64Value? (Char.ofNat b.toNat) with
      | some digit => (bits.add digit).map fun (bits, cs) => (some bits, cs, 0)
      | none =>
          if bits.value ≠ 0 || bits.begun then none
          else if b = 0x2D then some (none, [], 0)
          else directStep b rest

/-- The encoding with base 64. -/
def utf7 (bytes : List UInt8) : Decoded := decodeFrom utf7Step none [] bytes

/-! ## Backslashes -/

/-- The number that so many hexadecimal digits write. -/
def hexNumber? : Nat → Nat → List UInt8 → Option Nat
  | 0, value, _ => some value
  | _ + 1, _, [] => none
  | width + 1, value, b :: rest => do
      hexNumber? width (16 * value + (← hexValue? (Char.ofNat b.toNat))) rest

/-- The backslash. -/
def backslash : UInt8 := 0x5C

/-- The encoding in which a number has four digits after a small letter and eight after a capital
one. A character of ASCII that needs no escape may have none. -/
def escapedWide : Code := fun b rest =>
  if 0xA0 ≤ b then none
  else if b ≠ backslash then some (Char.ofNat b.toNat, 0)
  else
    let width := match rest with
      | 0x75 :: _ => 4
      | 0x55 :: _ => 8
      | _ => 0
    if width = 0 then some ('\\', 0)
    else match hexNumber? width 0 (rest.drop 1) with
      | none => some ('\\', 0)
      | some n =>
          if n.isValidChar && (0xA0 ≤ n || [0x24, 0x40, 0x60].contains n) then
            some (Char.ofNat n, width + 1)
          else none

/-- The number of a unit that is escaped here. -/
def escapedUnit? : List UInt8 → Option Nat
  | 0x5C :: 0x75 :: rest => hexNumber? 4 0 rest
  | _ => none

/-- The encoding in which units of 16 bits are escaped and other bytes are those of Latin-1. -/
def escapedUnits : Code := fun b rest =>
  match escapedUnit? (b :: rest) with
  | none => some (Char.ofNat b.toNat, 0)
  | some unit =>
      if unit.isValidChar then some (Char.ofNat unit, 5)
      else match escapedUnit? (rest.drop 5) with
        | none => some (Char.ofNat b.toNat, 0)
        | some low =>
            if unit < 0xDC00 && 0xDC00 ≤ low && low < 0xE000 then
              some (Char.ofNat (0x10000 + (unit - 0xD800) * 0x400 + (low - 0xDC00)), 11)
            else some (Char.ofNat b.toNat, 0)

end DepthRules.Charset
