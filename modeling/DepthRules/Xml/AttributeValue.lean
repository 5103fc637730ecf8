import DepthRules.Text.Split
import DepthRules.Xml.State

/-!
# Attribute values

The value of an attribute is read from its quoted text: blanks become spaces, references by number
become characters, and references to entities become the text the entities stand for, in which there
may be no markup. If references are not replaced throughout, a value is read in two steps: first the
references stay, and only make sure that their entities are fit for a value; the text of the
entities is put in afterwards as it stands.
-/

namespace DepthRules.Xml

open Text

/-- A piece of a quoted text. -/
inductive Piece where
  | plain (c : Char)
  | numbered (c : Char)
  | entity (name : String)

/-- The pieces of a text. -/
def pieces (limits : Limits) : Nat → List Char → Except Malformed (List Piece)
  | 0, _ => .ok []
  | _ + 1, [] => .ok []
  | fuel + 1, '&' :: '#' :: rest => do
      let (c, rest) ← Token.characterReference rest
      return .numbered c :: (← pieces limits fuel rest)
  | fuel + 1, '&' :: rest => do
      let (name, rest) ← Token.entityName limits rest
      return .entity name :: (← pieces limits fuel rest)
  | fuel + 1, c :: rest => do
      if c == '<' then throw .value
      if !isAllowed c then throw .character
      return .plain c :: (← pieces limits fuel rest)

namespace Scan

/-- The characters of pieces, where `plain` says what becomes of a character that stands for itself
and `expand` what an entity stands for. -/
def joinPieces (plain : Char → Char) (expand : String → Scan (List Char)) :
    List Piece → Scan (List Char)
  | [] => return []
  | .plain c :: rest => return plain c :: (← joinPieces plain expand rest)
  | .numbered c :: rest => return c :: (← joinPieces plain expand rest)
  | .entity name :: rest => do
      let text ← expand name
      return text ++ (← joinPieces plain expand rest)

/-- A blank as a space. -/
def asSpace (c : Char) : Char := if isSpace c then ' ' else c

/-- The number of bytes of a text. -/
def bytesOf (cs : List Char) : Nat := (String.ofList cs).utf8ByteSize

/-! ## Replaced references -/

/-- The text that a reference to an entity stands for in a value. `inner` gives that of the
references in the content of the entity, if they may be nested any deeper. -/
def replacementWith (inner : Option (String → Scan (List Char))) (name : String) :
    Scan (List Char) := do
  match predefined? name with
  | some c => return [c]
  | none =>
      match ← entity? name with
      | none => return []
      | some e =>
          match e.body, inner with
          | .internal content, some inner => do
              charge (bytesOf content)
              let ps ← liftM (pieces (← limits) (content.length + 1) content)
              expandingEntity name (joinPieces asSpace inner ps)
          | .internal _, none => fail .entityNesting
          | _, _ => fail .unsuitableEntity

/-- The text that a reference to an entity stands for in a value, with references nested no deeper
than the number says. -/
def replacement : Nat → String → Scan (List Char)
  | 0 => replacementWith none
  | levels + 1 => replacementWith (some (replacement levels))

/-! ## Kept references -/

/-- The amount of text that pieces add to a value beside their own, where `size` looks at an
entity. -/
def sizeOfPieces (size : String → Scan Nat) : List Piece → Scan Nat
  | [] => return 0
  | .entity name :: rest => do
      let n ← size name
      return n + (← sizeOfPieces size rest)
  | _ :: rest => sizeOfPieces size rest

/-- How references in a value are read: they are replaced, or they stay and their entities are
looked at. In a declaration these may refer to what is declared later, so that nothing is
counted. -/
inductive ValueReading where
  | replacing
  | keeping
  | declaring
  deriving DecidableEq, Repr

/-- The amount of text that a reference in the content of an entity adds to a value, or zero in a
declaration. An entity is looked at once, and then known to be fit for values. `inner` looks at the
references in the content of one not yet known, if they may be nested any deeper. -/
def referenceSizeWith (declaring : Bool) (inner : Option (String → Scan Nat)) (name : String) :
    Scan Nat := do
  if (predefined? name).isSome then return 0
  match ← entity? name with
  | none => return 0
  | some e =>
      match e.body with
      | .internal content =>
          match e.fitness with
          | .counted size => return size + referenceCost
          | known =>
              if declaring && known = .soFar then return 0
              else
                match inner with
                | none => fail .entityNesting
                | some inner =>
                    let ps ← liftM (pieces (← limits) (content.length + 1) content)
                    let added ← expandingEntity name (sizeOfPieces inner ps)
                    let size := bytesOf content + added
                    let known := if declaring then .soFar else .counted size
                    updateEntity name fun e => { e with fitness := known }
                    return if declaring then 0 else size + referenceCost
      | _ => fail .unsuitableEntity

/-- The amount of text that a reference in the content of an entity adds to a value, where the
number says how deep references to entities not yet known may be nested. -/
def referenceSize (declaring : Bool) : Nat → String → Scan Nat
  | 0 => referenceSizeWith declaring none
  | levels + 1 => referenceSizeWith declaring (some (referenceSize declaring levels))

/-- The text of items, where `text` gives that of an entity. -/
def textOfItems (text : String → Scan (List Char)) : List Item → Scan (List Char)
  | [] => return []
  | .text run :: rest => return run.toList ++ (← textOfItems text rest)
  | .reference name :: rest => do
      let inner ← text name
      return inner ++ (← textOfItems text rest)
  | _ :: rest => textOfItems text rest

/-- The text of an entity that is fit for values. Its content counts as read from then on. -/
def entityText : Nat → String → Scan (List Char)
  | 0, _ => return []
  | fuel + 1, name => do
      match predefined? name, (← get).entities.get? name with
      | some c, _ => return [c]
      | none, none => return []
      | none, some e =>
          match e.items, e.body with
          | some (items, _), _ => textOfItems (entityText fuel) items
          | none, .internal content => do
              let ps ← liftM (pieces (← limits) (content.length + 1) content)
              let text ← joinPieces id (entityText fuel) ps
              let size := match e.fitness with
                | .counted size => size
                | _ => 0
              keepItems name [.text (String.ofList text)] size
              return text
          | none, _ => return []

/-! ## Values -/

/-- A part of a value: a character, or a reference that stays. -/
inductive Part where
  | char (c : Char)
  | reference (name : String)
  deriving DecidableEq

/-- The parts that a piece of the quoted text makes up. -/
def partsOf (reading : ValueReading) : Piece → Scan (List Part)
  | .plain c => return [.char (asSpace c)]
  | .numbered c => return [.char c]
  | .entity name => do
      match predefined? name with
      | some c => return [.char c]
      | none =>
          let levels := (← get).levels
          if reading = .replacing then return (← replacement levels name).map .char
          else
            let size ← referenceSize (reading = .declaring) levels name
            if (← get).entities.has name then
              charge (size - referenceCost)
              return [.reference name]
            else return []

/-- The parts of several pieces. -/
def partsOfAll (reading : ValueReading) : List Piece → Scan (List Part)
  | [] => return []
  | p :: rest => do
      let parts ← partsOf reading p
      return parts ++ (← partsOfAll reading rest)

/-- Single spaces between the words of a value, and none around it. `started` tells whether there is
a word before, and `parted` whether there is a space after it. -/
def collapseSpaces : Bool → Bool → List Part → List Part
  | _, _, [] => []
  | started, parted, p :: rest =>
      if p = .char ' ' then collapseSpaces started true rest
      else if started && parted then .char ' ' :: p :: collapseSpaces true false rest
      else p :: collapseSpaces true false rest

/-- The parts of the value of an attribute, read from its quoted text. The value of one that is made
of names or words is `tokenized`. -/
def valueParts (reading : ValueReading) (tokenized : Bool) : Scan (List Part) := do
  let raw ← token (Token.rawText .value)
  let ps ← liftM (pieces (← limits) (raw.length + 1) (unifyNewlines raw))
  let parts ← partsOfAll reading ps
  return if tokenized then collapseSpaces false false parts else parts

/-- A value as a text in which references are written out. Where they stay, an ampersand is written
as a reference too. -/
def writtenValue (reading : ValueReading) (parts : List Part) : String :=
  String.ofList <| parts.flatMap fun
    | .char c => if c == '&' && reading ≠ .replacing then "&#38;".toList else [c]
    | .reference name => ("&" ++ name ++ ";").toList

/-- The value that parts make up, with the text of entities in the place of references. -/
def finishedValue : List Part → Scan (List Char)
  | [] => return []
  | .char c :: rest => return c :: (← finishedValue rest)
  | .reference name :: rest => do
      let text ← entityText ((← get).entities.length + 1) name
      return text ++ (← finishedValue rest)

end Scan

end DepthRules.Xml
