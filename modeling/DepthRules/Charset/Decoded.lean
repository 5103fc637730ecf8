/-!
# Decoding step by step

Bytes are decoded code by code. What a code stands for can depend on the codes before it, and some
codes stand for no character and only change what those after them stand for.
-/

namespace DepthRules.Charset

/-- Decoded text, and whether it ends where the bytes stop making sense. -/
structure Decoded where
  characters : List Char
  broken : Bool

/-- A step of decoding: from a state and a code, which begins with the byte, to the state after it,
the characters it stands for, and how many bytes it has besides the first. There is none where the
bytes make no sense. -/
abbrev Step (State : Type) := State → UInt8 → List UInt8 → Option (State × List Char × Nat)

/-- Decodes bytes step by step; `done` holds the characters before them, last first. -/
def decodeFrom {State : Type} (step : Step State) (state : State) (done : List Char)
    (bytes : List UInt8) : Decoded :=
  match bytes with
  | [] => ⟨done.reverse, false⟩
  | b :: rest =>
      match step state b rest with
      | none => ⟨done.reverse, true⟩
      | some (next, cs, more) => decodeFrom step next (cs.reverse ++ done) (rest.drop more)
  termination_by bytes.length
  decreasing_by exact Nat.lt_succ_of_le (List.length_drop ▸ Nat.sub_le _ _)

/-- What a code stands for that depends on no state: a character, and how many bytes it has besides
the first. -/
abbrev Code := UInt8 → List UInt8 → Option (Char × Nat)

/-- Decodes bytes code by code. -/
def decodeCodes (code : Code) (bytes : List UInt8) : Decoded :=
  decodeFrom (fun state b rest => (code b rest).map fun (c, more) => (state, [c], more)) () [] bytes

/-- The character of a byte that is in ASCII. -/
def ascii? (b : UInt8) : Option Char :=
  if b < 0x80 then some (Char.ofNat b.toNat) else none

/-- The number of a byte from `first` on, up to `last`. -/
def within? (first last : Nat) (b : UInt8) : Option Nat :=
  if first ≤ b.toNat && b.toNat ≤ last then some (b.toNat - first) else none

/-- What an ASCII byte or a code of two bytes stands for. -/
def asciiOr (pair : UInt8 → UInt8 → Option Char) : Code := fun b rest =>
  match ascii? b, rest with
  | some c, _ => some (c, 0)
  | none, second :: _ => (pair b second).map (·, 1)
  | none, [] => none

end DepthRules.Charset
