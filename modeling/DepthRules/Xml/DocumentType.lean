import DepthRules.Xml.Content

/-!
# Document types

The declarations in a document type: elements with what they may hold, attributes with their types
and defaults, entities and notations. Of several declarations of an entity or an attribute the first
one counts. What is declared outside the document is not read.
-/

namespace DepthRules.Xml.Scan

open Text

/-- A system identifier. -/
def systemLiteral : Scan String := do
  let text ← token (Token.quotedText .markupDeclaration)
  token (Token.withinRoom (← limits) 5 text)
  return String.ofList text

/-- A public identifier. -/
def publicLiteral : Scan Unit := do
  let text ← token (Token.quotedText .markupDeclaration)
  token (Token.withinRoom (← limits) 1 text)
  unless text.all isPublicChar do fail .markupDeclaration

/-- The identifier of something outside the document, if there is one: its system identifier, which
is empty if there is a public identifier alone. That is enough unless `strict` is set. -/
def externalId (strict : Bool) : Scan (Option String) := do
  if ← token (Token.accept "SYSTEM".toList) then
    token (Token.someBlanks .markupDeclaration)
    return some (← systemLiteral)
  else if ← token (Token.accept "PUBLIC".toList) then
    token (Token.someBlanks .markupDeclaration)
    publicLiteral
    if strict then
      token (Token.someBlanks .markupDeclaration)
      return some (← systemLiteral)
    else if ← token Token.blanks then
      let next ← token Token.peek?
      if next = some '"' || next = some '\'' then return some (← systemLiteral)
    return some ""
  else return none

/-- The end of a declaration. -/
def declarationEnd : Scan Unit := do
  let _ ← token Token.blanks
  token (Token.expect ['>'] .markupDeclaration)

/-- A name in a declaration. -/
def declaredName : Scan (List Char) := do
  token (Token.requiredName (← limits) .markupDeclaration)

/-! ## Elements -/

/-- A sign for how often a part may occur. -/
def occurrence : Token Unit := do
  match ← Token.peek? with
  | some c => if c == '?' || c == '*' || c == '+' then Token.skip 1
  | none => pure ()

/-- Reads the parts of a model up to the bracket that closes it. `separators` has an entry for each
open bracket, with the sign between its parts if one has been read; there may not be too many. -/
def modelParts (limits : Limits) : Nat → Bool → List (Option Char) → Token Unit
  | 0, _, _ => Token.fail .markupDeclaration
  | _ + 1, _, [] => pure ()
  | fuel + 1, true, separators => do
      let _ ← Token.blanks
      if ← Token.accept ['('] then
        if limits.depth ≤ separators.length then Token.fail .tooDeep
        modelParts limits fuel true (none :: separators)
      else
        let _ ← Token.requiredName limits .markupDeclaration
        occurrence
        modelParts limits fuel false separators
  | fuel + 1, false, separator :: outer => do
      let _ ← Token.blanks
      match ← Token.peek? with
      | some ')' =>
          Token.skip 1
          occurrence
          modelParts limits fuel false outer
      | some c =>
          if (c == ',' || c == '|') && (separator.isNone || separator = some c) then
            Token.skip 1
            modelParts limits fuel true (some c :: outer)
          else Token.fail .markupDeclaration
      | none => Token.fail .markupDeclaration

/-- Reads the names that may stand between text, up to the closing bracket. -/
def mixedParts (limits : Limits) : Nat → Bool → Token Unit
  | 0, _ => Token.fail .markupDeclaration
  | fuel + 1, named => do
      let _ ← Token.blanks
      if ← Token.accept [')'] then
        let starred ← Token.accept ['*']
        if named && !starred then Token.fail .markupDeclaration
      else
        Token.expect ['|'] .markupDeclaration
        let _ ← Token.blanks
        let _ ← Token.requiredName limits .markupDeclaration
        mixedParts limits fuel true

/-- The model of an element. -/
def contentModel : Scan ContentModel := do
  let limits ← limits
  let fuel := (← get).rest.length + 1
  if ← token (Token.accept "EMPTY".toList) then return .nothing
  else if ← token (Token.accept "ANY".toList) then return .anything
  else
    token (Token.expect ['('] .markupDeclaration)
    let _ ← token Token.blanks
    if ← token (Token.accept "#PCDATA".toList) then
      token (mixedParts limits fuel false)
      return .mixed
    else
      token (modelParts limits fuel true [none])
      return .elements

/-- Reads the declaration of an element, the part after its keyword. -/
def elementDeclaration : Scan Unit := do
  token (Token.someBlanks .markupDeclaration)
  let name := splitName (← declaredName)
  token (Token.someBlanks .markupDeclaration)
  let model ← contentModel
  declarationEnd
  if (← get).models.any fun m => m.1 = name then noteError
  else modify fun s => { s with models := s.models ++ [(name, model)] }

/-! ## Attributes -/

/-- A word, or a name if it has to be one. -/
def alternative (limits : Limits) (named : Bool) : Token (List Char) := do
  if named then Token.requiredName limits .markupDeclaration
  else
    let word ← Token.takeWhile fun c => isNameChar c || c == ':'
    if word.isEmpty then Token.fail .markupDeclaration
    Token.withinRoom limits 9 word
    return word

/-- Reads words or names with bars between, up to the closing bracket. -/
def alternatives (limits : Limits) (named : Bool) : Nat → Token (List (List Char))
  | 0 => Token.fail .markupDeclaration
  | fuel + 1 => do
      let _ ← Token.blanks
      let word ← alternative limits named
      let _ ← Token.blanks
      if ← Token.accept [')'] then return [word]
      else
        Token.expect ['|'] .markupDeclaration
        return word :: (← alternatives limits named fuel)

/-- Notes every word that stands among those before it. -/
def noteRepetitions (before : List (List Char)) : List (List Char) → Scan Unit
  | [] => return
  | word :: rest => do
      if before.contains word then noteError
      noteRepetitions (word :: before) rest

/-- The types of attributes; one that starts like another comes first. -/
def attributeTypes : List (String × AttributeKind) :=
  [("CDATA", .text), ("IDREFS", .names), ("IDREF", .name), ("ID", .identifier), ("ENTITY", .name),
    ("ENTITIES", .names), ("NMTOKENS", .words), ("NMTOKEN", .word)]

/-- Reads the first of the given words that comes next. -/
def acceptAny {α : Type} : List (String × α) → Token (Option α)
  | [] => return none
  | (word, meaning) :: rest => do
      if ← Token.accept word.toList then return some meaning else acceptAny rest

/-- The type of an attribute. -/
def attributeType : Scan AttributeKind := do
  let fuel := (← get).rest.length + 1
  match ← token (acceptAny attributeTypes) with
  | some kind => return kind
  | none =>
      let named ← token (Token.accept "NOTATION".toList)
      if named then token (Token.someBlanks .markupDeclaration)
      token (Token.expect ['('] .markupDeclaration)
      let words ← token (alternatives (← limits) named fuel)
      noteRepetitions [] words
      return if named then .name else .words

/-- The default of an attribute, if it has one. References in it stay unless they are replaced
throughout. -/
def attributeDefault (tokenized : Bool) : Scan (Option String) := do
  if (← token (acceptAny [("#REQUIRED", ()), ("#IMPLIED", ())])).isSome then return none
  else
    if ← token (Token.accept "#FIXED".toList) then token (Token.someBlanks .markupDeclaration)
    let reading : ValueReading :=
      if (← get).options.resolveEntities then .replacing else .declaring
    return some (writtenValue reading (← valueParts reading tokenized))

/-- Whether a text is a name, with or without colons. -/
def isFullName : List Char → Bool
  | [] => false
  | c :: rest => (isNameStart c || c == ':') && rest.all fun c => isNameChar c || c == ':'

/-- Whether a text is a word. -/
def isWord (cs : List Char) : Bool := !cs.isEmpty && cs.all fun c => isNameChar c || c == ':'

/-- Whether a value is one of its kind. Blanks other than spaces may stand before words. -/
def fits (kind : AttributeKind) (value : List Char) : Bool :=
  match kind with
  | .text => true
  | .identifier | .name => isFullName value
  | .names => (splitAll ' ' value).all isFullName
  | .word => isWord value
  | .words => (splitAll ' ' (value.dropWhile isSpace)).all isWord

/-- Adds the declaration of an attribute, unless there is one for it. An attribute that is an
identifier by its name must be one by its type, a default must be a value of the type, and an
element has one identifier. -/
def declareAttribute (d : AttributeDeclaration) : Scan Unit := do
  if d.name = (some "xml", "id") && d.kind ≠ .identifier then noteError
  unless d.default.all fun value => fits d.kind value.toList do noteError
  let known := (← get).attributes.filter fun other => other.owner = d.owner
  if known.any fun other => other.name = d.name then warn
  else
    if d.kind = .identifier && known.any fun other => other.kind = .identifier then noteError
    modify fun s => { s with attributes := s.attributes ++ [d] }

/-- Reads the declarations of the attributes of an element. -/
def attributeDeclarations (owner : SplitName) : Nat → Scan Unit
  | 0 => fail .markupDeclaration
  | fuel + 1 => do
      if ← token (Token.accept ['>']) then return
      let name := splitName (← declaredName)
      token (Token.someBlanks .markupDeclaration)
      let kind ← attributeType
      token (Token.someBlanks .markupDeclaration)
      let value ← attributeDefault (kind ≠ .text)
      unless (← token Token.peek?) = some '>' do token (Token.someBlanks .markupDeclaration)
      declareAttribute ⟨owner, name, kind, value⟩
      attributeDeclarations owner fuel

/-- Reads the declaration of attributes, the part after its keyword. -/
def attributeListDeclaration : Scan Unit := do
  let fuel := (← get).rest.length + 1
  token (Token.someBlanks .markupDeclaration)
  let owner := splitName (← declaredName)
  let _ ← token Token.blanks
  attributeDeclarations owner fuel

/-! ## Entities -/

/-- The text an entity is declared to stand for, with references by number replaced. References to
entities must be well written. A reference to an entity of document types ends the text; its name is
given too. -/
def declaredText (limits : Limits) :
    Nat → List Char → Except Malformed (List Char × Option String)
  | 0, _ => .ok ([], none)
  | _ + 1, [] => .ok ([], none)
  | fuel + 1, '&' :: '#' :: rest => do
      let (c, rest) ← Token.characterReference rest
      let (text, cut) ← declaredText limits fuel rest
      return (c :: text, cut)
  | fuel + 1, '&' :: rest => do
      let (name, rest) ← Token.entityName limits rest
      let (text, cut) ← declaredText limits fuel rest
      return ('&' :: (name.toList ++ ';' :: text), cut)
  | _ + 1, '%' :: rest => do
      let (name, _) ← Token.entityName limits rest
      return ([], some name)
  | fuel + 1, c :: rest => do
      if !isAllowed c then throw .character
      let (text, cut) ← declaredText limits fuel rest
      return (c :: text, cut)

/-- The text in quotes that an entity is declared to stand for. In it a reference to an entity of
document types is refused if there is such an entity, and otherwise one to an entity that is not
declared. -/
def entityLiteral : Scan (List Char) := do
  let raw ← token (Token.rawText .markupDeclaration)
  if raw.contains '\x00' then fail .character
  if (← get).levels = 0 then fail .entityNesting
  let (text, cut) ← liftM (declaredText (← limits) (raw.length + 1) raw)
  if let some name := cut then
    modify fun s => { s with external := true }
    if (← get).parameters.has name then fail .markupDeclaration else undeclared
  return text

/-- The body of an entity. The system identifier of one outside the document may not name a part of
what it stands for. -/
def entityBody (parameter : Bool) : Scan EntityBody := do
  let next ← token Token.peek?
  if next = some '"' || next = some '\'' then return .internal (← entityLiteral)
  else
    match ← externalId true with
    | none => fail .markupDeclaration
    | some system => if system.contains '#' then fail .markupDeclaration
    if parameter then return .external
    else if (← token Token.peek?) = some '>' then return .external
    else
      token (Token.someBlanks .markupDeclaration)
      if ← token (Token.accept "NDATA".toList) then
        token (Token.someBlanks .markupDeclaration)
        let _ ← token (Token.fullName (← limits))
        return .unparsed
      else return .external

/-- The ways in which an entity that every document has may be declared again: by its character,
unless that would be markup, or by a reference to it. -/
def mayStandFor (c : Char) : EntityBody → Bool
  | .internal content =>
      let n := toString c.toNat
      let hex := String.ofList (hexDigits 2 c.toNat)
      (content = [c] && c != '<' && c != '&') || String.ofList content = "&#" ++ n ++ ";" ||
        lowercaseLetters content = ("&#x" ++ hex ++ ";").toList
  | _ => false
where
  lowercaseLetters (cs : List Char) : List Char := cs.map Char.toLower

/-- Adds an entity, unless there is one with its name. -/
def declareEntity (name : String) (body : EntityBody) : Scan Unit := do
  match predefined? name with
  | some c => unless mayStandFor c body do warn
  | none =>
      unless (← get).entities.has name do
        modify fun s => { s with entities := s.entities ++ [(name, ⟨body, none, .unknown⟩)] }

/-- Adds an entity of the document type, unless there is one with its name. -/
def declareParameter (name : String) (body : EntityBody) : Scan Unit := do
  unless (← get).parameters.has name do
    modify fun s => { s with parameters := s.parameters ++ [(name, body)] }

/-- Reads the declaration of an entity, the part after its keyword. -/
def entityDeclaration : Scan Unit := do
  token (Token.someBlanks .markupDeclaration)
  let parameter ← token (Token.accept ['%'])
  if parameter then token (Token.someBlanks .markupDeclaration)
  let name ← declaredName
  if name.contains ':' then noteError
  token (Token.someBlanks .markupDeclaration)
  let body ← entityBody parameter
  declarationEnd
  if parameter then declareParameter (String.ofList name) body
  else declareEntity (String.ofList name) body

/-- Reads the declaration of a notation, the part after its keyword. -/
def notationDeclaration : Scan Unit := do
  token (Token.someBlanks .markupDeclaration)
  let name ← declaredName
  if name.contains ':' then noteError
  token (Token.someBlanks .markupDeclaration)
  if (← externalId false).isNone then fail .markupDeclaration
  declarationEnd
  let name := String.ofList name
  if (← get).notations.contains name then noteError
  else modify fun s => { s with notations := name :: s.notations }

/-! ## The internal subset -/

/-- Reads one declaration, comment or instruction. -/
def markupDeclaration : Scan Unit := do
  if ← token (Token.accept "<!--".toList) then
    let _ ← token Token.commentBody
  else if ← token (Token.accept "<?".toList) then
    let _ ← instruction
  else if ← token (Token.accept "<!ELEMENT".toList) then elementDeclaration
  else if ← token (Token.accept "<!ATTLIST".toList) then attributeListDeclaration
  else if ← token (Token.accept "<!ENTITY".toList) then entityDeclaration
  else if ← token (Token.accept "<!NOTATION".toList) then notationDeclaration
  else fail .markupDeclaration

/-- Reads a reference to an entity of the document type, the part after the percent sign, where
`expand` reads the declarations in its content. -/
def parameterReference (expand : List Char → Scan Unit) : Scan Unit := do
  let name ← token (Token.entityName (← limits))
  modify fun s => { s with external := true }
  match (← get).parameters.get? name with
  | none => undeclared
  | some (.internal content) =>
      charge (String.ofList content).utf8ByteSize
      expandingEntity ("%" ++ name) (expand content)
  | some _ => return

/-- Reads declarations up to the bracket that closes the subset, or the end of the text. -/
def declarations (expand : List Char → Scan Unit) : Nat → Scan Unit
  | 0 => return
  | fuel + 1 => do
      let _ ← token Token.blanks
      match (← get).rest with
      | [] => return
      | ']' :: _ => return
      | '%' :: _ =>
          token (Token.skip 1)
          parameterReference expand
          declarations expand fuel
      | _ =>
          markupDeclaration
          declarations expand fuel

/-- Reads the declarations in the content of an entity, with references nested no deeper than the
number says. -/
def nestedDeclarations : Nat → List Char → Scan Unit
  | 0, _ => fail .entityNesting
  | levels + 1, text =>
      within text (declarations (nestedDeclarations levels) (text.length + 1))

/-- Reads a document type, the part after its keyword. -/
def documentType : Scan Unit := do
  token (Token.someBlanks .doctype)
  let _ ← token (Token.requiredName (← limits) .doctype)
  let _ ← token Token.blanks
  if (← externalId true).isSome then modify fun s => { s with external := true }
  let _ ← token Token.blanks
  if ← token (Token.accept ['[']) then
    let s ← get
    declarations (nestedDeclarations (nesting s.options)) (s.rest.length + 1)
    token (Token.expect [']'] .doctype)
    let _ ← token Token.blanks
  token (Token.expect ['>'] .doctype)

end DepthRules.Xml.Scan
