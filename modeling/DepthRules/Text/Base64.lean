/-!
# Base 64

Four characters of the alphabet stand for three bytes. Characters outside the alphabet do not count,
and equals signs may end the text where a group of four has only two or three characters.
-/

namespace DepthRules.Text

/-- The value of a character of the alphabet. -/
def base64Value? (c : Char) : Option Nat :=
  if 'A' ≤ c ∧ c ≤ 'Z' then some (c.toNat - 'A'.toNat)
  else if 'a' ≤ c ∧ c ≤ 'z' then some (c.toNat - 'a'.toNat + 26)
  else if '0' ≤ c ∧ c ≤ '9' then some (c.toNat - '0'.toNat + 52)
  else if c = '+' then some 62
  else if c = '/' then some 63
  else none

/-- The byte that a character completes, given how many of its group are before it and the bits left
over from the last one. -/
def completedByte (position left value : Nat) : List UInt8 :=
  match position with
  | 1 => [UInt8.ofNat (left * 4 + value / 16)]
  | 2 => [UInt8.ofNat (left * 16 + value / 4)]
  | 3 => [UInt8.ofNat (left * 64 + value)]
  | _ => []

/-- The bits of a character left over for the next byte. -/
def leftOver (position value : Nat) : Nat :=
  match position with
  | 0 => value
  | 1 => value % 16
  | 2 => value % 4
  | _ => 0

/-- The bytes a text stands for, after those in `done`, which is backwards: `position` characters of
the present group have been read, and `pads` equals signs after them. -/
def base64From (position left pads : Nat) (done : List UInt8) : List Char → Option (List UInt8)
  | [] => if position = 0 then some done.reverse else none
  | c :: rest =>
      if c = '=' then
        if 2 ≤ position ∧ 4 ≤ position + (pads + 1) then some done.reverse
        else base64From position left (if 2 ≤ position then pads + 1 else pads) done rest
      else
        match base64Value? c with
        | none => base64From position left pads done rest
        | some value =>
            base64From ((position + 1) % 4) (leftOver position value) 0
              (completedByte position left value ++ done) rest

/-- The bytes a text stands for; none if its last group is not complete. -/
def base64? (cs : List Char) : Option (List UInt8) := base64From 0 0 0 [] cs

end DepthRules.Text
