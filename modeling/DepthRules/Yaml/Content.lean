import DepthRules.Text.Quoted

/-!
# The text of scalars

The text of a scalar is a sequence of characters, or of code points among which there are
surrogates.
-/

namespace DepthRules.Yaml

open Text

/-- The text of a scalar. -/
inductive Content where
  | text (chars : List Char)
  | codes (points : List Nat)
  deriving DecidableEq, Repr

/-- Whether a code point is a surrogate. -/
def isSurrogate (code : Nat) : Bool := 0xD800 ≤ code && code < 0xE000

/-- The text made of code points. -/
def Content.ofCodes (codes : List Nat) : Content :=
  if codes.any isSurrogate then .codes codes else .text (codes.map Char.ofNat)

/-- The text in quotes, with escapes. -/
def Content.quoted : Content → List Char
  | .text chars => Text.quoted chars
  | .codes points => Text.quotedCodes points

end DepthRules.Yaml
