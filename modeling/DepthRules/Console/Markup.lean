import DepthRules.Str

/-!
# Console markup

In console markup a word in square brackets is a tag. `escape` makes a text that is shown as it is:
a bracket that would open a tag gets a backslash before it, and the backslashes that stand there
already are doubled.
-/

namespace DepthRules.Console

/-- Characters that can follow the opening bracket of a tag. -/
def startsTag (c : Nat) : Bool :=
  ('a'.toNat ≤ c && c ≤ 'z'.toNat) || c == '#'.toNat || c == '/'.toNat || c == '@'.toNat

/-- Whether a closing bracket comes before the next opening one. -/
def closes : Str → Bool
  | [] => false
  | c :: rest => if c == ']'.toNat then true else if c == '['.toNat then false else closes rest

/-- Whether the text after an opening bracket makes it a tag. -/
def isTag : Str → Bool
  | [] => false
  | c :: rest => startsTag c && closes rest

/-- Escapes the tags of a text that comes after `slashes` backslashes. -/
def escapeFrom (slashes : Nat) : Str → Str
  | [] => List.replicate slashes '\\'.toNat
  | c :: rest =>
      if c == '\\'.toNat then escapeFrom (slashes + 1) rest
      else if c == '['.toNat && isTag rest then
        List.replicate (2 * slashes + 1) '\\'.toNat ++ '['.toNat :: escapeFrom 0 rest
      else List.replicate slashes '\\'.toNat ++ c :: escapeFrom 0 rest

/-- Whether a text ends in a backslash with none before it. -/
def endsInLoneSlash (s : Str) : Bool :=
  (s.getLast?.any fun c => c == '\\'.toNat) && !s.dropLast.getLast?.any fun c => c == '\\'.toNat

/-- The markup that shows a text as it is. -/
def escape (s : Str) : Str :=
  let escaped := escapeFrom 0 s
  if endsInLoneSlash escaped then escaped ++ "\\" else escaped

end DepthRules.Console
