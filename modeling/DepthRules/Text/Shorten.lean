import DepthRules.Text.Blank

/-!
# Shortening text for display

A shortened text is one line: runs of blanks become single spaces, and of a text that is still too
long a beginning is kept, with three points after it.
-/

namespace DepthRules.Text

/-- The first `n` code points; for a negative `n`, all but the last `-n`. -/
def takeSigned (n : Int) (s : Str) : Str :=
  if 0 ≤ n then s.take n.toNat else s.take (s.length - (-n).toNat)

/-- A text as one line of at most `limit` code points. -/
def shorten (limit : Int) (s : Str) : Str :=
  let line := collapse s
  if limit < line.length then takeSigned (limit - 3) line ++ "..." else line

end DepthRules.Text
