import DepthRules.Text.Hex
import DepthRules.Text.Integer
import DepthRules.Xml.Character

/-!
# Namespace names

A namespace name should be a URI, absolute or relative. `classify` tells which it is, if it is one.
Each part of the syntax is a function that reads what it can and gives back the rest.
-/

namespace DepthRules.Xml.Uri

open Text

/-- What a namespace name is. -/
inductive Form where
  | absolute
  | relative
  deriving DecidableEq, Repr

/-- Characters that stand for themselves everywhere. -/
def isUnreserved (c : Char) : Bool :=
  isLetter c || isDigit c || c == '-' || c == '.' || c == '_' || c == '~'

/-- Characters that separate parts of a component. -/
def isDelimiter (c : Char) : Bool := "!$&'()*+,;=".toList.contains c

/-- The text after the characters it starts with that are allowed, percent escapes among them. -/
def skipWhile (allowed : Char → Bool) : List Char → List Char
  | '%' :: a :: b :: rest =>
      if (hexValue? a).isSome && (hexValue? b).isSome then skipWhile allowed rest
      else '%' :: a :: b :: rest
  | c :: rest => if allowed c then skipWhile allowed rest else c :: rest
  | [] => []

/-- Characters of a segment of a path. -/
def isSegmentChar (c : Char) : Bool := isUnreserved c || isDelimiter c || c == ':' || c == '@'

/-- The text after the segments, each with a slash before it, that it starts with. -/
def skipSegments (cs : List Char) : List Char := skipWhile (fun c => isSegmentChar c || c == '/') cs

/-- The text after a host, if there is one. -/
def skipHost? (cs : List Char) : Option (List Char) :=
  match cs with
  | '[' :: rest =>
      match rest.dropWhile (· != ']') with
      | _ :: after => some after
      | [] => none
  | _ => some (skipWhile (fun c => isUnreserved c || isDelimiter c) cs)

/-- The greatest number of a port. -/
def greatestPort : Nat := 2147483647

/-- The text after a port, if there is one after a colon. -/
def skipPort? (cs : List Char) : Option (List Char) :=
  match cs with
  | ':' :: rest =>
      let digits := rest.takeWhile isDigit
      if digits.isEmpty || greatestPort < ofDigits (digits.filterMap asciiDigit?) then none
      else some (rest.drop digits.length)
  | _ => some cs

/-- The text after a user, host and port. -/
def skipAuthority? (cs : List Char) : Option (List Char) :=
  let afterUser := match skipWhile (fun c => isUnreserved c || isDelimiter c || c == ':') cs with
    | '@' :: rest => rest
    | _ => cs
  (skipHost? afterUser).bind skipPort?

/-- The text after an authority and a path. A path without an authority has no empty first segment,
and no colon in its first segment unless `colon` is set. -/
def skipHierarchy? (colon : Bool) (cs : List Char) : Option (List Char) :=
  match cs with
  | '/' :: '/' :: rest =>
      (skipAuthority? rest).map fun after =>
        match after with
        | '/' :: _ => skipSegments after
        | _ => after
  | '/' :: rest => some (skipSegments rest)
  | _ =>
      let first := skipWhile (fun c => isSegmentChar c && (colon || c != ':')) cs
      match first with
      | '/' :: _ => some (if first.length = cs.length then first else skipSegments first)
      | _ => some first

/-- Whether a text is nothing but a query and a fragment, each of which may be missing. -/
def isQueryAndFragment (cs : List Char) : Bool :=
  let afterQuery := match cs with
    | '?' :: rest => skipWhile (fun c => isSegmentChar c || c == '/' || c == '?') rest
    | _ => cs
  match afterQuery with
  | '#' :: rest =>
      (skipWhile
        (fun c => isSegmentChar c || c == '/' || c == '?' || c == '[' || c == ']') rest).isEmpty
  | [] => true
  | _ => false

/-- The text after a scheme and its colon. -/
def afterScheme? (cs : List Char) : Option (List Char) :=
  match cs with
  | c :: rest =>
      if isLetter c then
        match rest.dropWhile fun c => isLetter c || isDigit c || ['+', '-', '.'].contains c with
        | ':' :: after => some after
        | _ => none
      else none
  | [] => none

/-- Whether a text is a hierarchical part, a query and a fragment. -/
def isRest (colon : Bool) (cs : List Char) : Bool :=
  (skipHierarchy? colon cs).any isQueryAndFragment

/-- What a namespace name is; none if it is no URI. -/
def classify (cs : List Char) : Option Form :=
  if (afterScheme? cs).any (isRest true) then some .absolute
  else if isRest false cs then some .relative
  else none

end DepthRules.Xml.Uri
