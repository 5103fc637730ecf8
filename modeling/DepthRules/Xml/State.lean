import DepthRules.Entries
import DepthRules.Xml.Token
import DepthRules.Xml.Tree

/-!
# The state of reading a document

Besides the text still to be read, a reader keeps what the document type declares, what has been
noted, and how much text entities have added.
-/

namespace DepthRules.Xml

/-- How documents are read: whether blanks between elements are dropped, whether references to
entities are replaced by their content, and whether the limits on size and depth are lifted. -/
structure Options where
  removeBlankText : Bool
  resolveEntities : Bool
  hugeTree : Bool
  deriving DecidableEq, Repr

/-- What an entity stands for: text of the document type, or something outside the document, which
may not even be text. -/
inductive EntityBody where
  | internal (content : List Char)
  | external
  | unparsed

/-- What is known of an entity as a part of the values of attributes: nothing yet, that it is fit
for them as far as entities are declared, or the amount of text that it adds. -/
inductive Fitness where
  | unknown
  | soFar
  | counted (size : Nat)
  deriving DecidableEq, Repr

/-- A declared entity. Once its content has been read, it has the items the content makes up and the
amount of text in them, that of other entities included. -/
structure Entity where
  body : EntityBody
  items : Option (List Item × Nat)
  fitness : Fitness

/-- What an element may hold. -/
inductive ContentModel where
  | nothing
  | anything
  | mixed
  | elements
  deriving DecidableEq, Repr

/-- A name in a declaration, split at its first colon. -/
abbrev SplitName := Option String × String

/-- What the value of a declared attribute is: any text, the identifier of its element, or one or
more names or words. -/
inductive AttributeKind where
  | text
  | identifier
  | name
  | names
  | word
  | words
  deriving DecidableEq, Repr

/-- A declared attribute: the element that owns it, its name, what its value is, and its default. -/
structure AttributeDeclaration where
  owner : SplitName
  name : SplitName
  kind : AttributeKind
  default : Option String

/-- The state of a reader. While the content of an entity is read, `outside` is what is left of the
document itself; `levels` tells how many more texts may be read inside one another. `expanded` is
the amount of text that entities have added, and `size` that of the document. -/
structure State where
  rest : List Char
  outside : Option (List Char)
  levels : Nat
  options : Options
  notes : Notes
  entities : Entries String Entity
  parameters : Entries String EntityBody
  notations : List String
  models : List (SplitName × ContentModel)
  attributes : List AttributeDeclaration
  external : Bool
  standalone : Bool
  expanding : List String
  expanded : Nat
  size : Nat
  ids : List String

/-- A reader with state. -/
abbrev Scan (α : Type) := StateT State (Except Malformed) α

namespace Scan

/-- Ends the reading. -/
def fail {α : Type} (fault : Malformed) : Scan α := throw fault

/-- Reads a token. -/
def token {α : Type} (t : Token α) : Scan α := do
  let s ← get
  match t s.rest with
  | .ok (a, rest) =>
      set { s with rest := rest }
      return a
  | .error fault => throw fault

/-- Notes a warning. -/
def warn : Scan Unit := modify fun s => { s with notes := s.notes.warn }

/-- Notes an error. -/
def noteError : Scan Unit := modify fun s => { s with notes := s.notes.error }

/-- How deep elements, and the brackets of models, may be nested. -/
def greatestDepth (options : Options) : Nat := if options.hugeTree then 2048 else 256

/-- The limits on tokens. -/
def limits : Scan Limits := do
  let options := (← get).options
  return ⟨if options.hugeTree then 10000000 else 50000, greatestDepth options⟩

/-- Reads another text with a reader, which has to read all of it, and goes back to the present
one. -/
def within {α : Type} (text : List Char) (reader : Scan α) : Scan α := do
  let s ← get
  if s.levels = 0 then fail .entityNesting
  set { s with rest := text, outside := s.outside.or (some s.rest), levels := s.levels - 1 }
  let a ← reader
  unless (← get).rest.isEmpty do fail .unbalancedEntity
  modify fun t => { t with rest := s.rest, outside := s.outside, levels := s.levels }
  return a

/-- Runs a reader while an entity is being expanded, which it must not be already. -/
def expandingEntity {α : Type} (name : String) (reader : Scan α) : Scan α := do
  let s ← get
  if s.expanding.contains name then fail .entityLoop
  set { s with expanding := name :: s.expanding }
  let a ← reader
  modify fun t => { t with expanding := s.expanding }
  return a

/-- What a reference costs besides the text it stands for. -/
def referenceCost : Nat := 20

/-- The amount of text entities may always add. -/
def freeExpansion : Nat := 1000000

/-- How many times its own size a document may grow by its entities beyond that. -/
def amplification : Nat := 5

/-- The amount of text of the document that has been read. -/
def consumed (s : State) : Nat :=
  s.size - (String.ofList (s.outside.getD s.rest)).utf8ByteSize

/-- Counts text that a reference adds, and refuses a document that grows out of proportion. -/
def charge (size : Nat) : Scan Unit := do
  let s ← get
  let expanded := s.expanded + size + referenceCost
  if freeExpansion < expanded && consumed s < expanded / amplification then fail .amplification
  set { s with expanded := expanded }

/-- How many texts may be read inside one another, the document among them. -/
def nesting (options : Options) : Nat := if options.hugeTree then 40 else 20

/-- The character that an entity every document has stands for. -/
def predefined? (name : String) : Option Char :=
  match name with
  | "lt" => some '<'
  | "gt" => some '>'
  | "amp" => some '&'
  | "apos" => some '\''
  | "quot" => some '"'
  | _ => none

/-- Notes a reference to an entity that is not declared. It is a fault unless a declaration could
stand where it has not been read. -/
def undeclared : Scan Unit := do
  let s ← get
  if s.standalone || !s.external then fail .undeclaredEntity
  else if s.options.resolveEntities then noteError
  else warn

/-- The entity a reference stands for; none if it is not declared and need not be. -/
def entity? (name : String) : Scan (Option Entity) := do
  match (← get).entities.get? name with
  | none =>
      undeclared
      return none
  | some e =>
      match e.body with
      | .unparsed => fail .unsuitableEntity
      | _ => return some e

/-- Changes a declared entity. -/
def updateEntity (name : String) (change : Entity → Entity) : Scan Unit :=
  modify fun s =>
    match s.entities.get? name with
    | some e => { s with entities := s.entities.insert name (change e) }
    | none => s

/-- Keeps the items that the content of an entity makes up, and their amount of text. -/
def keepItems (name : String) (items : List Item) (size : Nat) : Scan Unit :=
  updateEntity name fun e => { e with items := some (items, size) }

end Scan

end DepthRules.Xml
