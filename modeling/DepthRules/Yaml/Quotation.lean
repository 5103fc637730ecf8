import DepthRules.Text.Hex
import DepthRules.Yaml.Fault
import DepthRules.Yaml.Spot

/-!
# Quoted scalars

Between single quotes only the quote itself is special, and is written twice; between double quotes
a backslash starts an escape. In both, blanks around line ends are dropped and single line ends
count as spaces. An escape can name a code point that is no character, so that the text is read as
numbers.
-/

namespace DepthRules.Yaml

open Text

/-- The line ends that stand here, after those in `breaks`, with blanks around them, and the rest. A
document marker at the start of a line is a fault. -/
def quotedBreaks : Bool → List Nat → List Spot → Except Fault (List Nat × List Spot)
  | _, breaks, [] => .ok (breaks.reverse, [])
  | lineStart, breaks, s :: rest =>
      if lineStart && !tellsMarker (s :: rest) then .error .unfinished
      else if lineStart && isMarker (s :: rest) then .error .malformed
      else if isBlank s.char then quotedBreaks false breaks rest
      else if isBreak s.char then quotedBreaks true ((breakChar s.char).toNat :: breaks) rest
      else .ok (breaks.reverse, s :: rest)

/-- What blanks, and line ends if there are any, count as. The text must not end here. -/
def quotedGap (text : List Spot) : Except Fault (List Nat × List Spot) :=
  match span isBlank text with
  | (_, []) => .error .unfinished
  | (blanks, s :: rest) =>
      if isBreak s.char then do
        let (others, rest) ← quotedBreaks true [] rest
        let first := breakChar s.char
        if first != '\n' then return (first.toNat :: others, rest)
        else return (if others.isEmpty then [' '.toNat] else others, rest)
      else if s.char == endMark then .error .malformed
      else .ok (blanks.map Char.toNat, s :: rest)

/-- Escapes of one character, and the code points they name. -/
def escapes : List (Char × Nat) :=
  [('0', 0), ('a', 7), ('b', 8), ('t', 9), ('\t', 9), ('n', 10), ('v', 11), ('f', 12), ('r', 13),
    ('e', 0x1B), (' ', 0x20), ('"', 0x22), ('\\', 0x5C), ('/', 0x2F), ('N', 0x85), ('_', 0xA0),
    ('L', 0x2028), ('P', 0x2029)]

/-- How many hexadecimal digits follow an escape character. -/
def escapeWidth? (c : Char) : Option Nat :=
  if c == 'x' then some 2 else if c == 'u' then some 4 else if c == 'U' then some 8 else none

/-- The number written by so many hexadecimal digits, and the rest. -/
def hexNumber : Nat → Nat → List Spot → Except Fault (Nat × List Spot)
  | 0, value, rest => .ok (value, rest)
  | _ + 1, _, [] => .error .unfinished
  | width + 1, value, s :: rest =>
      match hexValue? s.char with
      | some digit => hexNumber width (16 * value + digit) rest
      | none => .error .malformed

/-- The first number that is no code point. -/
def codePointLimit : Nat := 0x110000

/-- What stands for an escape after its backslash, and the rest. -/
def escape (text : List Spot) : Except Fault (List Nat × List Spot) :=
  match text with
  | [] => .error .unfinished
  | s :: rest =>
      match escapes.find? fun e => e.1 == s.char, escapeWidth? s.char with
      | some (_, code), _ => .ok ([code], rest)
      | none, some width => do
          let (code, rest) ← hexNumber width 0 rest
          if code < codePointLimit then return ([code], rest) else throw (.codePoint code)
      | none, none =>
          if isBreak s.char then quotedBreaks true [] rest else .error .malformed

/-- The text up to the closing quote, after the part in `done`, which is backwards. Each character
or gap takes one unit of fuel. -/
def quotedFrom (double : Bool) : Nat → List Nat → List Spot → Except Fault (List Nat × List Spot)
  | 0, _, _ => .error .malformed
  | _ + 1, _, [] => .error .unfinished
  | fuel + 1, done, s :: rest =>
      let c := s.char
      if isBlankOrEnd c then do
        let (gap, rest) ← quotedGap (s :: rest)
        quotedFrom double fuel (gap.reverse ++ done) rest
      else if double then
        if c == '"' then .ok (done.reverse, rest)
        else if c == '\\' then do
          let (codes, rest) ← escape rest
          quotedFrom double fuel (codes.reverse ++ done) rest
        else quotedFrom double fuel (c.toNat :: done) rest
      else if c == '\'' then
        match rest with
        | t :: further =>
            if t.char == '\'' then quotedFrom double fuel (c.toNat :: done) further
            else .ok (done.reverse, rest)
        | [] => .ok (done.reverse, rest)
      else quotedFrom double fuel (c.toNat :: done) rest

/-- The code points of the quoted scalar whose first quote has just been read, and the rest. -/
def quotedScalar (double : Bool) (text : List Spot) : Except Fault (List Nat × List Spot) :=
  quotedFrom double (text.length + 1) [] text

end DepthRules.Yaml
