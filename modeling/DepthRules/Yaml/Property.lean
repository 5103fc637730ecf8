import DepthRules.Text.Hex
import DepthRules.Text.Integer
import DepthRules.Text.Utf8
import DepthRules.Yaml.Block
import DepthRules.Yaml.Fault
import DepthRules.Yaml.Spot

/-!
# Anchors, tags and directives

A node may have an anchor, by which aliases refer to it, and a tag, which gives its type. A tag is
written out between angles, or with a handle that stands for the start of it. Directives before a
document tell its version and declare handles.
-/

namespace DepthRules.Yaml

open Text

/-- A reader of part of a text. -/
abbrev Scan (α : Type) := StateT (List Spot) (Except Fault) α

namespace Scan

/-- The text is not what it has to be, or ends here. -/
def fail {α : Type} : Scan α := fun text =>
  .error (if text.isEmpty then .unfinished else .malformed)

/-- Reads the characters of a class, up to one that is not of it. -/
def run (p : Char → Bool) : Scan (List Char) := fun text =>
  match span p text with
  | (_, []) => .error .unfinished
  | read => .ok read

/-- Reads the characters of a class, of which there must be one. -/
def run1 (p : Char → Bool) : Scan (List Char) := do
  let cs ← run p
  if cs.isEmpty then fail else return cs

/-- Passes over a character. -/
def char (c : Char) : Scan Unit := fun text =>
  match text with
  | s :: rest => if s.char == c then .ok ((), rest) else .error .malformed
  | [] => .error .unfinished

/-- Passes over spaces. -/
def spaces : Scan Unit := fun text => .ok ((), skip (· == ' ') text)

/-- The text must go on with a character of a class. -/
def before (p : Char → Bool) : Scan Unit := fun text =>
  if startsWith p text then .ok ((), text) else fail text

/-- Whether the text goes on with a character of a class. -/
def next (p : Char → Bool) : Scan Bool := fun text => .ok (startsWith p text, text)

end Scan

/-- Characters that can stand after the name of an anchor. -/
def endsAnchor (c : Char) : Bool :=
  isBlankOrEnd c || ['?', ':', ',', ']', '\x7d', '%', '@', Char.ofNat 0x60].contains c

/-- The name of an anchor or alias whose mark has just been read. -/
def anchorName : Scan String := do
  let name ← Scan.run1 isWordChar
  Scan.before endsAnchor
  return String.ofList name

/-- Characters of tags, escaped ones aside. -/
def isTagChar (c : Char) : Bool :=
  c.isAlphanum || ("-;/?:@&=+$,_.!~*'()[]".toList).contains c

/-- The bytes written by percent signs with two hexadecimal digits each, after those in `done`. -/
def escapedBytes : List UInt8 → List Spot → Except Fault (List UInt8 × List Spot)
  | _, [] => .error .unfinished
  | done, p :: rest =>
      if p.char == '%' then
        match rest with
        | [] => .error .unfinished
        | a :: rest =>
            match hexValue? a.char, rest with
            | none, _ => .error .malformed
            | some _, [] => .error .unfinished
            | some high, b :: rest =>
                match hexValue? b.char with
                | none => .error .malformed
                | some low => escapedBytes (UInt8.ofNat (16 * high + low) :: done) rest
      else .ok (done.reverse, p :: rest)

/-- The characters of a tag, after those in `done`, which is backwards. Each run of plain or of
escaped ones takes one unit of fuel. -/
def tagTextFrom : Nat → List Char → List Spot → Except Fault (List Char × List Spot)
  | 0, done, text => .ok (done.reverse, text)
  | fuel + 1, done, text =>
      match span isTagChar text with
      | (run, rest) =>
          let done := run.reverse ++ done
          if startsWith (· == '%') rest then do
            let (bytes, rest) ← escapedBytes [] rest
            match decodeUtf8 bytes with
            | .ok cs => tagTextFrom fuel (cs.reverse ++ done) rest
            | .error _ => throw .malformed
          else .ok (done.reverse, rest)

/-- The characters of a tag; there must be one, written plainly or escaped. -/
def tagText : Scan String := fun text =>
  if startsWith (fun c => isTagChar c || c == '%') text then do
    let (cs, rest) ← tagTextFrom (text.length + 1) [] text
    return (String.ofList cs, rest)
  else Scan.fail text

/-- A handle: two exclamation marks with a name between, or a single one before a space. -/
def tagHandle : Scan String := do
  Scan.char '!'
  if ← Scan.next (· == ' ') then return "!"
  let name ← Scan.run isWordChar
  Scan.char '!'
  return String.ofList ('!' :: (name ++ ['!']))

/-- A tag as it is written: the handle, if there is one, and what follows it. -/
structure WrittenTag where
  handle : Option String
  suffix : String
  deriving DecidableEq, Repr

/-- Whether the tag that stands here has a second exclamation mark. -/
def hasHandle : Scan Bool := fun text =>
  match skip (fun c => !isSpaceOrEnd c && c != '!') (text.drop 1) with
  | [] => .error .unfinished
  | s :: _ => .ok (s.char == '!', text)

/-- The tag that stands here. -/
def tag : Scan WrittenTag := do
  let text ← get
  let after := text.drop 1
  let written : WrittenTag ←
    if startsWith (· == '<') after then do
      set (after.drop 1)
      let suffix ← tagText
      Scan.char '>'
      pure ⟨none, suffix⟩
    else if startsWith isBlankOrEnd after then do
      set after
      pure ⟨none, "!"⟩
    else do
      let handle ← if ← hasHandle then tagHandle else do
        set after
        pure "!"
      let suffix ← tagText
      pure ⟨some handle, suffix⟩
  Scan.before isSpaceOrEnd
  return written

/-- A directive: the version of the format, a handle and what it stands for, or one without
effect. -/
inductive Directive where
  | version (major : Nat)
  | handle (handle start : String)
  | other
  deriving DecidableEq, Repr

/-- A number of a version. -/
def versionNumber : Scan Nat := do
  let digits ← Scan.run1 Char.isDigit
  if maxDigits < digits.length then throw (.longInteger digits.length)
  return ofDigits (digits.map fun c => c.toNat - '0'.toNat)

/-- The directive whose mark has just been read. -/
def directive : Scan Directive := do
  let name ← Scan.run1 isWordChar
  Scan.before isSpaceOrEnd
  let read ← match String.ofList name with
    | "YAML" => do
        Scan.spaces
        let major ← versionNumber
        Scan.char '.'
        let _ ← versionNumber
        Scan.before isSpaceOrEnd
        pure (Directive.version major)
    | "TAG" => do
        Scan.spaces
        let handle ← tagHandle
        if !(← Scan.next (· == ' ')) then Scan.fail
        Scan.spaces
        let start ← tagText
        Scan.before isSpaceOrEnd
        pure (Directive.handle handle start)
    | _ => do
        let _ ← Scan.run (!isLineEnd ·)
        pure Directive.other
  set (← restOfLine (← get))
  return read

end DepthRules.Yaml
