import DepthRules.Text.Split

/-!
# Names with namespaces

An expanded name is a local name with the namespace it belongs to, written with the namespace in
braces before it. A qualified name has a prefix instead, which stands for the namespace in its
scope.
-/

namespace DepthRules.Xml

open Text

/-- The namespace of the names with the prefix `xml`. -/
def xmlNamespace : String := "http://www.w3.org/XML/1998/namespace"

/-- A name with its namespace, if it has one. -/
structure ExpandedName where
  namespaceUri : Option String
  localName : String
  deriving DecidableEq, Repr

/-- The bindings of prefixes to namespaces that hold at an element, in order. No prefix stands for
the default namespace. -/
abbrev Scope := List (Option String × String)

/-- The prefix and the local name with a colon between. -/
def qualify (pfx localName : String) : String := pfx ++ ":" ++ localName

namespace ExpandedName

/-- The written form of an expanded name. -/
def text (name : ExpandedName) : String :=
  match name.namespaceUri with
  | none => name.localName
  | some uri => "\x7b" ++ uri ++ "\x7d" ++ name.localName

/-- Reads the written form. The namespace ends at the first closing brace; a text with an opening
brace alone is no name. -/
def parse? (s : String) : Option ExpandedName :=
  match s.toList with
  | '\x7b' :: rest =>
      match splitFirst '\x7d' rest with
      | (uri, some localName) => some ⟨some (String.ofList uri), String.ofList localName⟩
      | (_, none) => none
  | _ => some ⟨none, s⟩

/-- The name that the written form is read back as. A namespace with a closing brace in it is cut
there, and what comes after the brace goes into the local name. -/
def reread (name : ExpandedName) : ExpandedName := (parse? name.text).getD name

/-- The first prefix of a scope that stands for a namespace. -/
def prefixFor? (scope : Scope) (uri : String) : Option String :=
  scope.findSome? fun binding => if binding.2 = uri then binding.1 else none

/-- The qualified name: with the first prefix that stands for the namespace, and the local name
alone where there is none. -/
def qualified (name : ExpandedName) (scope : Scope) : String :=
  match name.namespaceUri with
  | none => name.localName
  | some uri =>
      if uri = xmlNamespace then qualify "xml" name.localName
      else
        match prefixFor? scope uri with
        | some pfx => qualify pfx name.localName
        | none => name.localName

end ExpandedName

/-- Adds a binding to a scope: a prefix that is there keeps its place. -/
def Scope.bind (scope : Scope) (pfx : Option String) (uri : String) : Scope :=
  match scope with
  | [] => [(pfx, uri)]
  | (p, u) :: rest => if p = pfx then (p, uri) :: rest else (p, u) :: Scope.bind rest pfx uri

/-- The scope with the given bindings added one after the other. -/
def Scope.ofList (bindings : List (Option String × String)) : Scope :=
  bindings.foldl (fun scope b => scope.bind b.1 b.2) []

/-- The namespace a prefix stands for. -/
def Scope.find? (scope : Scope) (pfx : Option String) : Option String :=
  (List.find? (fun b => b.1 = pfx) scope).map Prod.snd

/-- The namespace a prefix stands for, where a binding to the empty name counts as none. -/
def Scope.bound? (scope : Scope) (pfx : Option String) : Option String :=
  (scope.find? pfx).filter fun uri => !uri.isEmpty

end DepthRules.Xml
