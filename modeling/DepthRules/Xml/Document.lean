import DepthRules.Xml.DocumentType
import DepthRules.Xml.Encoding

/-!
# Reading documents

A document is a declaration, comments and instructions, a document type, and one element, most of
which may be missing. `Document.read` gives the element, or the fault for which the document is
refused. Nothing but the document itself is read: of those that refer to external entities, only the
ones whose entities stay unresolved are described.
-/

namespace DepthRules.Xml

open Text

/-- What the declaration of a document says: its version, its encoding, and whether it stands alone.
-/
structure Declaration where
  version : String
  encoding : Option String
  standalone : Bool

namespace Token

/-- Reads an equals sign with blanks around it. -/
def equals : Token Unit := do
  let _ ← blanks
  expect ['='] .declaration
  let _ ← blanks

/-- The limits on what is read in a declaration. -/
def declarationLimits : Limits := ⟨50000, 0⟩

/-- Reads a version. -/
def version : Token String := do
  let text ← quotedText .declaration
  withinRoom declarationLimits 1 text
  match text with
  | d :: '.' :: rest =>
      if isDigit d && rest.all isDigit then return String.ofList text else fail .declaration
  | _ => fail .declaration

/-- Reads the name of an encoding. -/
def encodingName : Token String := do
  let text ← quotedText .declaration
  withinRoom declarationLimits 1 text
  match text with
  | c :: rest =>
      if isLetter c && rest.all fun c => isLetter c || isDigit c || c == '.' || c == '_' || c == '-'
      then return String.ofList text
      else fail .declaration
  | [] => fail .declaration

/-- Reads whether a document stands alone. -/
def standalone : Token Bool := do
  let text ← quotedText .declaration
  if text = "yes".toList then return true
  else if text = "no".toList then return false
  else fail .declaration

/-- Reads the declaration of a document. -/
def declaration : Token Declaration := do
  expect "<?xml".toList .declaration
  someBlanks .declaration
  expect "version".toList .declaration
  equals
  let version ← version
  let separated ← blanks
  let encoding ←
    if separated && (← accept "encoding".toList) then do
      equals
      pure (some (← encodingName))
    else pure none
  let separated ← if encoding.isSome then blanks else pure separated
  let alone ←
    if separated && (← accept "standalone".toList) then do
      equals
      let alone ← standalone
      let _ ← blanks
      pure alone
    else pure false
  expect ['?', '>'] .declaration
  return ⟨version, encoding, alone⟩

/-- Whether a declaration comes next. -/
def declarationFollows : Token Bool := do
  match (← get).drop 5 with
  | c :: _ => return isSpace c && (← startsWith "<?xml".toList)
  | [] => return false

end Token

namespace Scan

/-- Reads the declaration of a document in an encoding that its first bytes show, if they do. -/
def documentDeclaration (shown : Option Encoding) : Scan Unit := do
  if ← token Token.declarationFollows then
    let d ← token Token.declaration
    if d.version ≠ "1.0" then
      if d.version.toList.head? = some '1' then warn else fail .declaration
    match shown, d.encoding with
    | some e, some name => unless e.isNamed name do warn
    | _, _ => pure ()
    modify fun s => { s with standalone := d.standalone }

/-- Reads comments, instructions and blanks. -/
def miscellany : Nat → Scan Unit
  | 0 => return
  | fuel + 1 => do
      let _ ← token Token.blanks
      if ← token (Token.accept "<?".toList) then
        let _ ← instruction
        miscellany fuel
      else if ← token (Token.accept "<!--".toList) then
        let _ ← token Token.commentBody
        miscellany fuel
      else return

/-- Reads the one element of a document. -/
def rootElement (fuel : Nat) : Scan Document := do
  match (← get).rest with
  | '<' :: c :: _ => if c == '!' || c == '/' || c == '?' then fail .tag
  | _ => fail .noElement
  let levels := nesting (← get).options
  let frames ← content (fun depth => entityContent levels depth) false 0 fuel [.base]
  match frames with
  | [f] =>
      match f.content with
      | [.element tag content] => return ⟨tag, content⟩
      | _ => fail .noElement
  | _ => fail .unclosed

/-- Reads a document whose bytes make sense to the end of its text unless `broken` is set. After an
error has been noted it does not matter what comes after the element. -/
def document (shown : Option Encoding) (broken : Bool) : Scan Document := do
  let fuel := (← get).rest.length + 1
  documentDeclaration shown
  miscellany fuel
  if ← token (Token.accept "<!DOCTYPE".toList) then
    documentType
    miscellany fuel
  let d ← rootElement fuel
  miscellany fuel
  let s ← get
  if s.notes.errors = 0 && (broken || !s.rest.isEmpty) then fail .trailing
  if s.notes.last = some .error then fail .namespaces
  return d

end Scan

/-- The state before reading. -/
def State.start (options : Options) (text : List Char) : State :=
  { rest := text, outside := none, levels := Scan.nesting options - 1, options, notes := .none
    entities := [], parameters := [], notations := [], models := [], attributes := []
    external := false, standalone := false, expanding := [], expanded := 0
    size := (String.ofList text).utf8ByteSize, ids := [] }

/-- The encoding of bytes, the one their first bytes show if these do, and how many bytes are a
mark. The encoding a document names must be one with units of bytes. -/
def encodingOf (bytes : List UInt8) : Except Malformed (Encoding × Option Encoding × Nat) :=
  match Encoding.shown? bytes with
  | some shown => .ok (shown.encoding, some shown.encoding, shown.markBytes)
  | none => do
      let ascii := (Encoding.latin1.decode bytes).characters
      let (follows, _) ← Token.declarationFollows ascii
      if follows then
        let (d, _) ← Token.declaration ascii
        match d.encoding with
        | none => return (.utf8, none, 0)
        | some name =>
            match Encoding.ofName? name with
            | some e => return (e, none, 0)
            | none => throw .encoding
      else return (.utf8, none, 0)

/-- Reads a document from its bytes. -/
def Document.read (options : Options) (bytes : List UInt8) : Except Malformed Document := do
  let (encoding, shown, mark) ← encodingOf bytes
  let decoded := encoding.decode (bytes.drop mark)
  let (d, _) ← Scan.document shown decoded.broken
    (State.start options decoded.characters)
  return d

end DepthRules.Xml
