import DepthRules.Xml.StartTag

/-!
# The content of elements

Content is read with a list of the elements that are open, so that no depth of nesting matters to
the reader; how deep elements may be nested is a limit of its own. Text comes in runs, and with
blanks between elements to be dropped, each run is dropped or kept as a whole.

An external entity stands for what is in a file that it names, and the reader has no files.
Documents that refer to one and are to have their entities resolved are left out of this
description: all of them are refused here, although a reader that finds the file would go on with
its content.
-/

namespace DepthRules.Xml

open Text

/-- An open element: its tag, its name as written, the scope inside it, what is said of its blanks,
its content so far, last item first, and whether that starts with text. -/
structure Frame where
  tag : Tag
  written : Token.Written
  scope : Scope
  space : SpaceMode
  content : List Item
  startsWithText : Bool

/-- Whether an item is text. -/
def Item.isText : Item → Bool
  | .text _ => true
  | _ => false

namespace Frame

/-- What holds the items that are in no element. -/
def base : Frame :=
  ⟨⟨⟨none, "", none⟩, [], []⟩, ⟨none, "", true⟩, [], .unsaid, [], false⟩

/-- Adds an item to the content. -/
def add (f : Frame) (item : Item) : Frame :=
  { f with
    content := item :: f.content
    startsWithText := if f.content.isEmpty then item.isText else f.startsWithText }

/-- The element once it is closed. -/
def close (f : Frame) : Item := .element f.tag f.content.reverse

/-- What the blanks of an element are by what is said outside it. -/
def inheritedSpace (f : Frame) : SpaceMode := if f.space = .mixed then .unsaid else f.space

/-- The name under which the model of an element is declared: a prefix counts only if it is part of
the local name. -/
def modelName (f : Frame) : SplitName := splitName f.tag.name.localName.toList

/-- Whether a run of blanks with the given text after it stands between elements and not in text. A
model decides if there is one. -/
def dropsBlanks (f : Frame) (model : Option ContentModel) (rest : List Char) : Bool :=
  match model with
  | some .elements => true
  | some _ => false
  | none =>
      let beforeMarkup := match rest with
        | '<' :: '/' :: _ => !f.content.isEmpty
        | '<' :: _ => true
        | '\r' :: _ => true
        | _ => false
      let afterText := match f.content with
        | item :: _ => item.isText
        | [] => false
      beforeMarkup && !afterText && !f.startsWithText

/-- Adds a run of text that comes before `rest`, or drops it if it is blank and blanks are to be
dropped. -/
def addRun (removeBlank : Bool) (model : Option ContentModel) (f : Frame)
    (run : List Char × List Char) : Frame :=
  let (run, rest) := run
  if run.isEmpty then f
  else if !removeBlank then f.add (.text (String.ofList run))
  else if f.space ≠ .preserved && f.space ≠ .mixed && run.all isSpace &&
      f.dropsBlanks model rest then f
  else
    let f := f.add (.text (String.ofList run))
    if f.space = .unsaid then { f with space := .mixed } else f

end Frame

/-! ## Runs of text -/

/-- Characters of a plain run. -/
def isPlain (c : Char) : Bool :=
  (0x20 ≤ c.toNat && c.toNat < 0x80 && c != '<' && c != '&') || c == '\t' || c == '\n'

/-- The plain run that a text starts with, and the rest. -/
def plainRun : List Char → List Char → Except Malformed (List Char × List Char)
  | done, [] => .ok (done.reverse, [])
  | done, c :: rest =>
      if isPlain c then
        if c == ']' && [']', '>'].isPrefixOf rest then .error .bracketsInText
        else plainRun (c :: done) rest
      else .ok (done.reverse, c :: rest)

/-- The number of bytes of a run that is not plain. -/
def runBytes : Nat := 300

/-- The runs of a text up to markup, of any characters, with the text after each. `size` is the
number of bytes of the run now open. -/
def anyRuns : Nat → List Char → Nat → List Char →
    Except Malformed (List (List Char × List Char))
  | 0, _, _, _ => .ok []
  | fuel + 1, done, size, cs =>
      match cs with
      | [] => .ok [(done.reverse, [])]
      | c :: rest =>
          if c == '<' || c == '&' then .ok [(done.reverse, cs)]
          else if !isAllowed c then .error .character
          else if [']', ']', '>'].isPrefixOf cs then .error .bracketsInText
          else
            let (c, rest) := match c, rest with
              | '\r', '\n' :: more => ('\n', more)
              | '\r', more => ('\n', more)
              | c, more => (c, more)
            let size := size + (String.singleton c).utf8ByteSize
            if runBytes ≤ size then
              (anyRuns fuel [] 0 rest).map (((c :: done).reverse, rest) :: ·)
            else anyRuns fuel (c :: done) size rest

/-- The runs of a text up to markup, with the text after each. A carriage return ends a plain
run. -/
def runs : Nat → List Char → Except Malformed (List (List Char × List Char))
  | 0, _ => .ok []
  | fuel + 1, cs => do
      let (run, rest) ← plainRun [] cs
      match rest with
      | '\r' :: '\n' :: after =>
          let startsPlain := match after with
            | c :: _ => isPlain c || c == '<' || c == '&'
            | [] => false
          let later ←
            if startsPlain then runs fuel ('\n' :: after)
            else anyRuns (fuel + 1) [] 0 ('\n' :: after)
          return (run, rest) :: later
      | [] => return [(run, [])]
      | c :: _ =>
          if c == '<' || c == '&' then return [(run, rest)]
          else return (run, rest) :: (← anyRuns (fuel + 1) [] 0 rest)

namespace Scan

/-- Reads the text up to markup into an element. -/
def characterData (fuel : Nat) (f : Frame) : Scan Frame := do
  let s ← get
  let found ← liftM (runs fuel s.rest)
  let model := (s.models.find? fun m => m.1 = f.modelName).map Prod.snd
  set { s with rest := (found.getLast?.map Prod.snd).getD [] }
  return found.foldl (Frame.addRun s.options.removeBlankText model) f

/-! ## Markup in content -/

/-- The target of an instruction, the part after `<?`. The name of the declaration is refused in any
case, and other names that start like it are noted. -/
def instructionTarget : Scan String := do
  let name ← token (Token.requiredName (← limits) .instruction)
  let start := (name.take 3).map Char.toLower
  if start = ['x', 'm', 'l'] then
    if name.length = 3 then fail .instruction
    else if String.ofList name = "xml-stylesheet" || String.ofList name = "xml-model" then
      return String.ofList name
    else warn
  if name.contains ':' then noteError
  return String.ofList name

/-- Reads an instruction, the part after `<?`. -/
def instruction : Scan Item := do
  let target ← instructionTarget
  let body ← token Token.instructionBody
  return .instruction target body

/-- Reads the end tag of an element, the part after `</`. The name of the element may come next as
it stands in the start tag. -/
def endTag (f : Frame) : Scan Unit := do
  let expected := f.written.text.toList
  let s ← get
  let after := s.rest.drop expected.length
  if expected.isPrefixOf s.rest && after.head?.any (fun c => c == '>' || isSpace c) then
    set { s with rest := after }
  else
    let name ← token (Token.fullName (← limits))
    if name ≠ expected then fail .mismatchedTag
  let _ ← token Token.blanks
  token (Token.expect ['>'] .tag)

/-- Reads a start tag, the part after the bracket, with `depth` elements open, into a new open
element; tells whether it is closed at once. -/
def openElement (fuel depth : Nat) (outer : Frame) : Scan (Frame × Bool) := do
  let (tag, written, scope, space) ← startTag fuel outer.scope
  if greatestDepth (← get).options ≤ depth then fail .tooDeep
  let f : Frame := ⟨tag, written, scope, space.getD outer.inheritedSpace, [], false⟩
  if ← token (Token.accept ['/', '>']) then return (f, true)
  else
    token (Token.expect ['>'] .tag)
    return (f, false)

/-- Adds what a reference stands for to an open element, where `expand` reads the content of an
entity. The file of an external entity is not looked for. -/
def reference (expand : List Char → Scan (List Item)) (f : Frame) : Scan Frame := do
  if ← token (Token.accept ['#']) then
    return f.add (.text (String.singleton (← token Token.characterReference)))
  else
    let name ← token (Token.entityName (← limits))
    let resolve := (← get).options.resolveEntities
    match predefined? name with
    | some c => return f.add (.text (String.singleton c))
    | none =>
        match ← entity? name with
        | none => return if resolve then f else f.add (.reference name)
        | some e =>
            match e.body with
            | .internal content => do
                let (items, size) ←
                  match e.items with
                  | some known => pure known
                  | none => do
                      let before := (← get).expanded
                      modify fun s => { s with expanded := 0 }
                      let items ← expandingEntity name (expand content)
                      let size := (← get).expanded + (String.ofList content).utf8ByteSize
                      modify fun s => { s with expanded := before }
                      keepItems name items size
                      pure (items, size)
                charge size
                if resolve then return items.foldl Frame.add f
                else return f.add (.reference name)
            | _ => if resolve then fail .unsuitableEntity else return f.add (.reference name)

/-- Closes an element and adds it to the one around it. -/
def closeInto (f : Frame) : List Frame → List Frame
  | [] => [f]
  | outer :: more => outer.add f.close :: more

/-- Reads content into the innermost of the open elements. With `whole` set all of the text is read;
otherwise reading ends when only the outermost of the list is open and something has been added to
it. `around` counts the elements open besides those of the list but the outermost. -/
def content (expand : Nat → List Char → Scan (List Item)) (whole : Bool) (around : Nat) :
    Nat → List Frame → Scan (List Frame)
  | 0, _ => fail .unclosed
  | _ + 1, [] => return []
  | fuel + 1, f :: outer => do
      let depth := around + outer.length
      if !whole && outer.isEmpty && !f.content.isEmpty then return [f]
      match (← get).rest with
      | [] => if outer.isEmpty then return [f] else fail .unclosed
      | '<' :: '?' :: _ =>
          token (Token.skip 2)
          let item ← instruction
          content expand whole around fuel (f.add item :: outer)
      | '<' :: '!' :: '[' :: _ =>
          token (Token.expect "<![CDATA[".toList .tag)
          let body ← token Token.dataBody
          content expand whole around fuel (f.add (.text body) :: outer)
      | '<' :: '!' :: _ =>
          token (Token.expect "<!--".toList .tag)
          let body ← token Token.commentBody
          content expand whole around fuel (f.add (.comment body) :: outer)
      | '<' :: '/' :: _ =>
          if outer.isEmpty then return [f]
          else
            token (Token.skip 2)
            endTag f
            content expand whole around fuel (closeInto f outer)
      | '<' :: _ =>
          token (Token.skip 1)
          let (inner, closed) ← openElement fuel depth f
          if closed then content expand whole around fuel (f.add inner.close :: outer)
          else content expand whole around fuel (inner :: f :: outer)
      | '&' :: _ =>
          token (Token.skip 1)
          let f ← reference (expand depth) f
          content expand whole around fuel (f :: outer)
      | _ =>
          let f ← characterData fuel f
          content expand whole around fuel (f :: outer)

/-- Reads the content of an entity with references nested no deeper than the first number says, and
`depth` elements open outside it. -/
def entityContent : Nat → Nat → List Char → Scan (List Item)
  | 0, _, _ => fail .entityNesting
  | levels + 1, depth, text => do
      if greatestDepth (← get).options ≤ depth then fail .tooDeep
      let frames ← within text
        (content (entityContent levels) true (depth + 1) (text.length + 1) [.base])
      return (frames.head?.map fun f => f.content.reverse).getD []

end Scan

end DepthRules.Xml
