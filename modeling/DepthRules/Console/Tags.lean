import DepthRules.Console.Markup
import DepthRules.Text.Blank
import DepthRules.Text.Split

/-!
# Tags of markup

A tag opens a style, or it closes one if its name starts with a slash: the last one that is open if
nothing else stands in it, and else the last one of that name. Markup in which a tag closes what is
not open cannot be shown (`markupFault?`). Two names of a style count as one if their normal forms
are the same. A tag with an at sign is one for handlers, whose parameters have to be such when it is
closed. Both, what the normal form of a name is and which parameters are none, are matters of the
console (`Styles`).
-/

namespace DepthRules.Console

open Text

/-- A tag: where it stands in its markup, its name, and after an equals sign its parameters. -/
structure Tag where
  position : Nat
  name : Str
  parameters : Option Str
  deriving DecidableEq, Repr

/-- The tag with the given text between its brackets. -/
def Tag.ofContent (position : Nat) (content : Str) : Tag :=
  ⟨position, (splitFirst '='.toNat content).1, (splitFirst '='.toNat content).2⟩

/-- A tag as it is written. -/
def Tag.markup (tag : Tag) : Str :=
  match tag.parameters with
  | none => "[" ++ tag.name ++ "]"
  | some parameters => "[" ++ tag.name ++ "=" ++ parameters ++ "]"

/-- Whether a tag closes a style. -/
def Tag.isClosing (tag : Tag) : Bool := tag.name.head?.any fun c => c == '/'.toNat

/-- The name of the style that a tag closes, empty for the last one. -/
def Tag.closed (tag : Tag) : Str := trim (tag.name.drop 1)

/-- Whether a tag is one for handlers. -/
def Tag.isHandler (tag : Tag) : Bool := tag.name.head?.any fun c => c == '@'.toNat

/-- The tags of the rest of a markup, which starts at `position` and comes after `slashes`
backslashes. Of an open tag `content` is what stands in it so far, backwards, and `start` where it
starts. -/
def tagsFrom (position slashes : Nat) : Option (Nat × Str) → Str → List Tag
  | _, [] => []
  | some (start, content), c :: rest =>
      if c == ']'.toNat then .ofContent start content.reverse :: tagsFrom (position + 1) 0 none rest
      else tagsFrom (position + 1) 0 (some (start, c :: content)) rest
  | none, c :: rest =>
      if c == '\\'.toNat then tagsFrom (position + 1) (slashes + 1) none rest
      else if c == '['.toNat && isTag rest && slashes % 2 == 0 then
        tagsFrom (position + 1) 0 (some (position, [])) rest
      else tagsFrom (position + 1) 0 none rest

/-- The tags of a markup. -/
def tags (markup : Str) : List Tag := tagsFrom 0 0 none markup

/-- Why markup cannot be shown. -/
inductive MarkupFault where
  | nothingOpen (position : Nat)
  | notOpen (tag : Tag)
  | parameters (complaint : Str)
  deriving DecidableEq, Repr

/-- The wording of a fault. -/
def MarkupFault.message : MarkupFault → Str
  | .nothingOpen position =>
      "closing tag '[/]' at position " ++ toString position ++ " has nothing to close"
  | .notOpen tag =>
      "closing tag '" ++ tag.markup ++ "' at position " ++ toString tag.position ++
        " doesn't match any open tag"
  | .parameters complaint => complaint

/-- What a console knows of styles: the normal form of a name, and what is said of parameters of a
handler that are none. -/
structure Styles where
  normalize : Str → Str
  complaint? : Str → Option Str

/-- What is said of the parameters of an open tag when it is closed. -/
def Styles.complaintAt? (styles : Styles) (tag : Tag) : Option Str :=
  if tag.isHandler then
    match tag.parameters with
    | none | some [] => none
    | some parameters => styles.complaint? parameters
  else none

/-- The open tags without the one that is closed, where the last one to be opened comes first. -/
def Styles.close (styles : Styles) (tag : Tag) (opened : List Tag) :
    Except MarkupFault (List Tag) :=
  let ends (other : Tag) : Bool := tag.closed.isEmpty || other.name == styles.normalize tag.closed
  match opened.find? ends with
  | none =>
      .error (if tag.closed.isEmpty then .nothingOpen tag.position else .notOpen tag)
  | some other =>
      match styles.complaintAt? other with
      | some complaint => .error (.parameters complaint)
      | none => .ok (opened.eraseP ends)

/-- The first fault of further tags, if `opened` are open. -/
def Styles.faultFrom? (styles : Styles) (opened : List Tag) : List Tag → Option MarkupFault
  | [] => none
  | tag :: rest =>
      if tag.isClosing then
        match styles.close tag opened with
        | .error fault => some fault
        | .ok opened => styles.faultFrom? opened rest
      else styles.faultFrom? ({ tag with name := styles.normalize tag.name } :: opened) rest

/-- Why a markup cannot be shown, if it cannot. -/
def Styles.markupFault? (styles : Styles) (markup : Str) : Option MarkupFault :=
  styles.faultFrom? [] (tags markup)

end DepthRules.Console
