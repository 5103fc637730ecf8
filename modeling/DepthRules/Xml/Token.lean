import DepthRules.Text.Hex
import DepthRules.Text.Lines
import DepthRules.Xml.Character
import DepthRules.Xml.Malformed

/-!
# Tokens of markup

Reading names, quoted literals, character references and the bodies of comments, instructions and
character data sections. A token reader takes the text still to be read and gives what it has read
and the rest, or a fault. Line ends are turned into line feeds in what is read.
-/

namespace DepthRules.Xml

open Text

/-- A reader of a piece of text. -/
abbrev Token (α : Type) := StateT (List Char) (Except Malformed) α

/-- What must be known to read: the greatest number of bytes of a name, and how deep brackets may be
nested. -/
structure Limits where
  nameBytes : Nat
  depth : Nat

namespace Token

/-- Fails. -/
def fail {α : Type} (fault : Malformed) : Token α := throw fault

/-- The next character, if there is one. -/
def peek? : Token (Option Char) := return (← get).head?

/-- Whether the rest starts with the given text. -/
def startsWith (text : List Char) : Token Bool := return text.isPrefixOf (← get)

/-- Leaves out so many characters. -/
def skip (n : Nat) : Token Unit := modify (·.drop n)

/-- Reads a given text if it comes next, and tells whether it does. -/
def accept (text : List Char) : Token Bool := do
  if ← startsWith text then
    skip text.length
    return true
  else return false

/-- Reads a given text. -/
def expect (text : List Char) (fault : Malformed) : Token Unit := do
  unless ← accept text do fail fault

/-- Leaves out blanks and tells whether there were any. -/
def blanks : Token Bool := do
  let rest ← get
  match rest with
  | c :: _ =>
      if isSpace c then
        set (rest.dropWhile isSpace)
        return true
      else return false
  | [] => return false

/-- Leaves out blanks, of which there must be some. -/
def someBlanks (fault : Malformed) : Token Unit := do
  unless ← blanks do fail fault

/-- The characters of the given class that come next. -/
def takeWhile (p : Char → Bool) : Token (List Char) := do
  let (taken, rest) := (← get).span p
  set rest
  return taken

/-- Refuses a name of too many bytes. -/
def withinLimit (limits : Limits) (name : List Char) : Token Unit :=
  if limits.nameBytes < (String.ofList name).utf8ByteSize then fail .nameTooLong else pure ()

/-- Refuses a literal that is too long: as many bytes as a name may have must hold it, with `room`
bytes free before its last character is added. -/
def withinRoom (limits : Limits) (room : Nat) (literal : List Char) : Token Unit :=
  let size := (String.ofList literal.dropLast).utf8ByteSize
  if !literal.isEmpty && limits.nameBytes ≤ size + room then
    fail .nameTooLong
  else pure ()

/-- A name without a colon; empty if there is none. -/
def simpleName (limits : Limits) : Token (List Char) := do
  match ← get with
  | c :: _ =>
      if isNameStart c then
        let name ← takeWhile isNameChar
        withinLimit limits name
        return name
      else return []
  | [] => return []

/-- A name that may hold colons; empty if there is none. -/
def fullName (limits : Limits) : Token (List Char) := do
  match ← get with
  | c :: _ =>
      if isNameStart c || c == ':' then
        let name ← takeWhile fun c => isNameChar c || c == ':'
        withinLimit limits name
        return name
      else return []
  | [] => return []

/-- A name that must be there. -/
def requiredName (limits : Limits) (fault : Malformed) : Token (List Char) := do
  let name ← fullName limits
  if name.isEmpty then fail fault else return name

/-- A name with its prefix, as written. One that has colons in the wrong places is kept whole. -/
structure Written where
  pfx : Option String
  localName : String
  wellPlaced : Bool
  deriving DecidableEq, Repr

/-- Characters of a name, colons among them, as they stand: a carriage return with a line feed after
it belongs to them too. -/
def rawName (limits : Limits) : Token (List Char) := do
  let name ← takeWhile fun c => isNameChar c || c == ':'
  withinLimit limits name
  if ← startsWith ['\r', '\n'] then
    skip 1
    return name ++ ['\r']
  else return name

/-- A name with at most one colon between two parts. If there is no such name but colons and name
characters, these are read as a name that is not well placed; if there is not even that, nothing. -/
def qualifiedName (limits : Limits) : Token (Option Written) := do
  let start ← get
  let first ← simpleName limits
  let malformed : Token (Option Written) := do
    set start
    let name ← rawName limits
    return some ⟨none, String.ofList name, false⟩
  if first.isEmpty then
    if (← peek?) = some ':' then malformed else return none
  else if (← peek?) = some ':' then
    skip 1
    let second ← simpleName limits
    if second.isEmpty || (← peek?) = some ':' then malformed
    else return some ⟨some (String.ofList first), String.ofList second, true⟩
  else return some ⟨none, String.ofList first, true⟩

/-- Characters up to the one given, all of them allowed in a document. -/
def upTo (stop : Char) (fault : Malformed) : Token (List Char) := do
  let body ← takeWhile fun c => isAllowed c && c != stop
  if (← peek?) = some stop then return body else fail fault

/-- What stands in single or double quotes, where `body` reads up to the quote it is given. -/
def quoted (body : Char → Token (List Char)) (fault : Malformed) : Token (List Char) := do
  match ← peek? with
  | some quote =>
      if quote == '"' || quote == '\'' then
        skip 1
        let text ← body quote
        expect [quote] fault
        return text
      else fail fault
  | none => fail fault

/-- A text in single or double quotes, without them. -/
def quotedText (fault : Malformed) : Token (List Char) := quoted (upTo · fault) fault

/-- What stands in single or double quotes, be it characters of a document or not. -/
def rawText (fault : Malformed) : Token (List Char) :=
  quoted (fun quote => takeWhile (· != quote)) fault

/-- The number written by digits of a base, and the rest; none if there are no digits. -/
def digits? (base : Nat) (cs : List Char) : Option Nat × List Char :=
  let isDigitOf (c : Char) : Bool := (hexValue? c).any (· < base)
  let (taken, rest) := cs.span isDigitOf
  if taken.isEmpty then (none, rest)
  else (some (taken.foldl (fun n c => min 0x110000 (n * base + (hexValue? c).getD 0)) 0), rest)

/-- The character that a reference by number stands for, the part after `&#`. -/
def characterReference : Token Char := do
  let base ← if ← accept ['x'] then pure 16 else pure 10
  match digits? base (← get) with
  | (some n, ';' :: rest) =>
      set rest
      if n.isValidChar && n ≠ 0 && isAllowed (Char.ofNat n) then return Char.ofNat n
      else fail .character
  | _ => fail .reference

/-- The name of the entity that a reference stands for, the part after `&`. -/
def entityName (limits : Limits) : Token String := do
  let name ← requiredName limits .reference
  expect [';'] .reference
  return String.ofList name

end Token

/-- The text before the first place where `stop` comes next, and the text after that; none if a
character before it is not allowed, or if `stop` does not come. -/
def breakAt? (stop : List Char) : List Char → List Char → Option (List Char × List Char)
  | _, [] => none
  | done, c :: rest =>
      if stop.isPrefixOf (c :: rest) then some (done.reverse, (c :: rest).drop stop.length)
      else if isAllowed c then breakAt? stop (c :: done) rest
      else none

namespace Token

/-- The text up to `stop`, which is left out. -/
def through (stop : List Char) (fault : Malformed) : Token (List Char) := do
  match breakAt? stop [] (← get) with
  | some (body, rest) =>
      set rest
      return unifyNewlines body
  | none => fail fault

/-- The body of a comment, the part after `<!--`. Two hyphens end it. -/
def commentBody : Token String := do
  let body ← through ['-', '-'] .comment
  expect ['>'] .comment
  return String.ofList body

/-- The body of a section of character data, the part after `<![CDATA[`. -/
def dataBody : Token String := return String.ofList (← through [']', ']', '>'] .cdata)

/-- The body of an instruction, the part after its target. -/
def instructionBody : Token String := do
  if ← accept ['?', '>'] then return ""
  else
    someBlanks .instruction
    return String.ofList (← through ['?', '>'] .instruction)

end Token

end DepthRules.Xml
