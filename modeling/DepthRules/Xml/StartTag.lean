import DepthRules.Xml.AttributeValue
import DepthRules.Xml.Uri

/-!
# Start tags

A start tag is read in two steps: its attributes in order, where those that declare namespaces are
set apart, and then the namespaces of the names, when all declarations on the tag are known.
-/

namespace DepthRules.Xml

open Text

/-- What is said of the blanks in an element: nothing, that they are as usual, that they count, or
nothing but there is text among them. -/
inductive SpaceMode where
  | unsaid
  | usual
  | preserved
  | mixed
  deriving DecidableEq, Repr

/-- An attribute as written: its name, its value, and whether references stay in the value. -/
structure WrittenAttribute where
  name : Token.Written
  value : String
  refers : Bool

/-- A start tag while it is read: its namespace declarations and its other attributes, last first,
and what it says of blanks. -/
structure StartTag where
  declarations : List (Option String × String)
  attributes : List WrittenAttribute
  space : Option SpaceMode

/-- The namespace of declarations. -/
def declarationNamespace : String := "http://www.w3.org/2000/xmlns/"

/-- A name with its prefix as one text. -/
def Token.Written.text (w : Token.Written) : String :=
  match w.pfx with
  | none => w.localName
  | some pfx => qualify pfx w.localName

/-- A name with its prefix split off. -/
def Token.Written.split (w : Token.Written) : SplitName := (w.pfx, w.localName)

/-- A name split at its first colon. -/
def splitName (name : List Char) : SplitName :=
  match splitFirst ':' name with
  | (pfx, some localName) =>
      if pfx.isEmpty || localName.isEmpty then (none, String.ofList name)
      else (some (String.ofList pfx), String.ofList localName)
  | (whole, none) => (none, String.ofList whole)

namespace Scan

open Token (Written)

/-- Adds a namespace declaration to a tag, on which there must be none for the same prefix. -/
def declare (tag : StartTag) (pfx : Option String) (uri : String) : Scan StartTag := do
  if tag.declarations.any fun d => d.1 = pfx then fail .duplicateAttribute
  return { tag with declarations := (pfx, uri) :: tag.declarations }

/-- Reads the default namespace from the value of an attribute. -/
def declareDefault (tag : StartTag) (uri : String) : Scan StartTag := do
  unless uri.isEmpty do
    match Uri.classify uri.toList with
    | none => noteError
    | some .relative => warn
    | some .absolute => pure ()
  if uri = xmlNamespace || uri = declarationNamespace then
    noteError
    return tag
  else declare tag none uri

/-- Reads the namespace of a prefix from the value of an attribute. -/
def declarePrefix (tag : StartTag) (pfx uri : String) : Scan StartTag := do
  if pfx = "xml" then
    if uri ≠ xmlNamespace then noteError
    return tag
  else if uri = xmlNamespace || pfx = "xmlns" || uri = declarationNamespace || uri.isEmpty then
    noteError
    return tag
  else
    if (Uri.classify uri.toList).isNone then noteError
    declare tag (some pfx) uri

/-- Whether a name is that of the declaration of a namespace. -/
def isDeclaration (name : SplitName) : Bool := name = (none, "xmlns") || name.1 = some "xmlns"

/-- What the value of the attribute for blanks says of them, if anything. -/
def spaceMode? (value : String) : Option SpaceMode :=
  if value = "default" then some .usual
  else if value = "preserve" then some .preserved
  else none

/-- Adds an attribute to a tag. References are replaced in the names of namespaces. -/
def addAttribute (tag : StartTag) (name : Written) (tokenized : Bool) : Scan StartTag := do
  let reading : ValueReading :=
    if (← get).options.resolveEntities || isDeclaration name.split then .replacing else .keeping
  let parts ← valueParts reading tokenized
  let value := String.ofList (← finishedValue parts)
  match name.pfx, name.localName with
  | none, "xmlns" => declareDefault tag value
  | some "xmlns", pfx => declarePrefix tag pfx value
  | pfx, localName =>
      let refers := parts.any fun
        | .reference _ => true
        | .char _ => false
      let tag := { tag with attributes := ⟨name, value, refers⟩ :: tag.attributes }
      if pfx = some "xml" && localName = "space" then
        match spaceMode? (writtenValue reading parts) with
        | some mode => return { tag with space := some mode }
        | none =>
            warn
            return tag
      else return tag

/-- Reads a name; one with colons in the wrong places is noted. -/
def qualifiedName (fault : Malformed) : Scan Written := do
  match ← token (Token.qualifiedName (← limits)) with
  | none => fail fault
  | some name =>
      unless name.wellPlaced do noteError
      return name

/-- Whether the end of a tag comes next. -/
def atTagEnd : Scan Bool := do
  match (← get).rest with
  | '>' :: _ => return true
  | '/' :: '>' :: _ => return true
  | _ => return false

/-- What the value of an attribute of an element is declared to be. -/
def kindOf (owner name : SplitName) : Scan AttributeKind := do
  match (← get).attributes.find? fun d => d.owner = owner && d.name = name with
  | some d => return d.kind
  | none => return .text

/-- Reads the attributes of a tag. -/
def attributes (owner : Written) : Nat → StartTag → Scan StartTag
  | 0, tag => return tag
  | fuel + 1, tag => do
      if ← atTagEnd then return tag
      let name ← qualifiedName .attribute
      let _ ← token Token.blanks
      token (Token.expect ['='] .attribute)
      let _ ← token Token.blanks
      let tag ← addAttribute tag name ((← kindOf owner.split name.split) ≠ .text)
      if ← atTagEnd then return tag
      token (Token.someBlanks .attribute)
      attributes owner fuel tag

/-- The declared attributes of an element that have a default. -/
def defaults (owner : Written) : Scan (List (SplitName × String)) := do
  return (← get).attributes.filterMap fun d =>
    if d.owner = owner.split then d.default.map (d.name, ·) else none

/-- The amount of text that an attribute adds by default. -/
def defaultSize (name : SplitName) (value : String) : Nat :=
  (name.1.getD "").utf8ByteSize + name.2.utf8ByteSize + value.utf8ByteSize

/-- Adds the namespaces that a tag declares by default. That of the prefix `xml` is fixed. -/
def defaultDeclarations (tag : StartTag) : List (SplitName × String) → Scan StartTag
  | [] => return tag
  | (name, uri) :: rest => do
      if isDeclaration name then
        charge (defaultSize name uri)
        let pfx := if name.1.isSome then some name.2 else none
        if pfx = some "xml" || tag.declarations.any fun d => d.1 = pfx then
          defaultDeclarations tag rest
        else defaultDeclarations { tag with declarations := (pfx, uri) :: tag.declarations } rest
      else defaultDeclarations tag rest

/-- The name of an attribute with its namespace. A prefix that stands for none is noted and stays
part of the name. -/
def attributeName (scope : Scope) (name : Written) : Scan QName := do
  match name.pfx with
  | none => return ⟨none, name.localName, none⟩
  | some "xml" => return ⟨some "xml", name.localName, some xmlNamespace⟩
  | some pfx =>
      match scope.find? (some pfx) with
      | some uri => return ⟨some pfx, name.localName, some uri⟩
      | none =>
          noteError
          return ⟨none, name.text, none⟩

/-- The name of an element with its namespace. A binding to the empty name counts as
none. -/
def elementName (scope : Scope) (name : Written) : Scan QName := do
  match name.pfx with
  | none => return ⟨none, name.localName, scope.bound? none⟩
  | some "xml" => return ⟨some "xml", name.localName, some xmlNamespace⟩
  | some pfx =>
      match scope.bound? (some pfx) with
      | some uri => return ⟨some pfx, name.localName, some uri⟩
      | none =>
          noteError
          return ⟨none, name.text, none⟩

/-- Whether two attributes have the same namespace and local name. -/
def sameName (a b : QName × Written) : Bool :=
  a.1.uri = b.1.uri && a.2.localName = b.2.localName

/-- Refuses an attribute written twice, and notes one whose name has the same meaning as
another's. -/
def checkNames : List (QName × Written) → Scan Unit
  | [] => return
  | a :: rest => do
      if rest.any fun b => b.2.split = a.2.split then fail .duplicateAttribute
      if rest.any (sameName a) then noteError
      checkNames rest

/-- Looks at the other attributes that a tag has by default. They are not added, but their names
must have a meaning, and none of them may mean the same as an attribute with another name. -/
def checkDefaults (scope : Scope) (present : List (QName × Written)) :
    List (SplitName × String) → Scan Unit
  | [] => return
  | (name, value) :: rest => do
      if isDeclaration name then checkDefaults scope present rest
      else
        let written : Written := ⟨name.1, name.2, true⟩
        let meant ← attributeName scope written
        match present.find? (sameName (meant, written)) with
        | some other => if other.2.split = name then checkDefaults scope present rest else
            noteError
            charge (defaultSize name value)
            checkDefaults scope ((meant, written) :: present) rest
        | none =>
            charge (defaultSize name value)
            checkDefaults scope ((meant, written) :: present) rest

/-- Whether a text is a name without a colon, with or without blanks around it. -/
def isSimpleName (s : String) : Bool :=
  let start := s.toList.dropWhile isSpace
  match (start.reverse.dropWhile isSpace).reverse with
  | c :: rest => isNameStart c && rest.all isNameChar
  | [] => false

/-- Notes an identifier that is not unique; an empty one is refused. -/
def register (identifier : String) : Scan Unit := do
  if identifier.isEmpty then fail .value
  if (← get).ids.contains identifier then noteError
  modify fun s => { s with ids := identifier :: s.ids }

/-- Notes identifiers that are not unique or, if no declaration makes them identifiers, no names.
Inside an entity none are looked at, and neither are values in which references stay. -/
def checkIdentifier (owner : SplitName) (a : Attribute) (refers : Bool) : Scan Unit := do
  if refers || !(← get).expanding.isEmpty then return
  if a.name.uri = some xmlNamespace && a.name.localName = "id" then
    unless isSimpleName a.value do noteError
    register a.value
  else if (← kindOf owner (a.name.pfx, a.name.localName)) = .identifier then register a.value

/-- Reads a start tag, the part after the opening bracket, in a scope. Besides the tag, the name as
written, the scope inside the element and what is said of blanks are given. -/
def startTag (fuel : Nat) (outer : Scope) :
    Scan (Tag × Written × Scope × Option SpaceMode) := do
  let name ← qualifiedName .tag
  let _ ← token Token.blanks
  let read ← attributes name fuel ⟨[], [], none⟩
  let missing ← defaults name
  let full ← defaultDeclarations read missing
  let declarations := full.declarations.reverse
  let scope := declarations ++ outer
  let written := full.attributes.reverse
  let names ← written.mapM fun a => attributeName scope a.name
  let present := names.zip (written.map WrittenAttribute.name)
  checkNames present.reverse
  checkDefaults scope present missing
  let qualified ← elementName scope name
  let attrs := (names.zip written).map fun a => ((⟨a.1, a.2.value⟩ : Attribute), a.2.refers)
  attrs.forM fun a => checkIdentifier name.split a.1 a.2
  return (⟨qualified, declarations, attrs.map Prod.fst⟩, name, scope, read.space)

end Scan

end DepthRules.Xml
