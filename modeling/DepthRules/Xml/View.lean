import DepthRules.Node.Basic
import DepthRules.Xml.Tree

/-!
# Documents as trees of nodes

How the elements of a document appear to rules: names have their prefixes, namespace declarations
stand before the other attributes, and text that stands together is one node. The text content of an
element is all text in it, with unreplaced references as they are written, and without comments and
instructions.
-/

namespace DepthRules.Xml

/-- The bindings that hold in an element: its own declarations, and those around it for other
prefixes. -/
def Scope.extend (outer : Scope) (declarations : List (Option String × String)) : Scope :=
  declarations ++ outer.filter fun b => !declarations.any fun d => d.1 = b.1

/-- The expanded name of a name. -/
def QName.expanded (name : QName) : ExpandedName := ⟨name.uri, name.localName⟩

/-- A name as it appears to rules. Its namespace and local name are told by the written form of its
expanded name. -/
def QName.text (name : QName) : String :=
  match name.expanded.reread, name.pfx with
  | ⟨some _, localName⟩, some pfx => qualify pfx localName
  | ⟨_, localName⟩, _ => localName

/-- The name of the attribute that declares a namespace. -/
def declarationName : Option String → String
  | none => "xmlns"
  | some pfx => qualify "xmlns" pfx

/-- The declarations on an element that change what holds around it, as attributes. -/
def declarationAttributes (outer : Scope) (declarations : List (Option String × String)) :
    List (String × String) :=
  (declarations.filter fun d => outer.find? d.1 ≠ some d.2).map fun d => (declarationName d.1, d.2)

/-- The expanded name of an attribute. -/
def Attribute.expanded (a : Attribute) : ExpandedName := a.name.expanded

/-- The name of an attribute as it appears to rules: with the first prefix of the scope that stands
for the namespace which the written form of its expanded name tells. -/
def Attribute.text (scope : Scope) (a : Attribute) : String := a.expanded.reread.qualified scope

/-- The value under the expanded name of an attribute, which is that of the first attribute with the
name. -/
def Tag.valueOf (tag : Tag) (a : Attribute) : String :=
  ((tag.attributes.find? fun b => b.expanded = a.expanded).map Attribute.value).getD a.value

/-- The attributes of an element as they appear to rules. -/
def Tag.entries (outer : Scope) (tag : Tag) : Entries String String :=
  let scope := outer.extend tag.declarations
  Entries.ofList (declarationAttributes outer tag.declarations ++
    tag.attributes.map fun a => (a.text scope, tag.valueOf a))

mutual

/-- The text an item adds to the content of the element it is in. -/
def Item.innerText : Item → String
  | .element _ content => allInnerText content
  | .text run => run
  | .comment _ => ""
  | .instruction _ _ => ""
  | .reference entity => "&" ++ entity ++ ";"

/-- The text of several items. -/
def allInnerText : List Item → String
  | [] => ""
  | item :: rest => item.innerText ++ allInnerText rest

end

/-- Text as a node, if there is any. -/
def textNodes (text : String) : List Node :=
  if text.isEmpty then [] else [.mk .text "#text" [] text []]

mutual

/-- An item in a scope as it appears to rules. -/
def Item.toNode (outer : Scope) : Item → Node
  | .element tag content =>
      .mk .element tag.name.text (tag.entries outer) (allInnerText content)
        (contentNodes (outer.extend tag.declarations) "" content)
  | .text run => .mk .text "#text" [] run []
  | .comment body => .mk .comment "#comment" [] body []
  | .instruction target body => .mk .other target [] body []
  | .reference entity => .mk .other entity [] ("&" ++ entity ++ ";") []

/-- The content of an element as nodes, after text that is not a node yet. -/
def contentNodes (scope : Scope) (pending : String) : List Item → List Node
  | [] => textNodes pending
  | .text run :: rest => contentNodes scope (pending ++ run) rest
  | item :: rest => textNodes pending ++ item.toNode scope :: contentNodes scope "" rest

end

/-- The root element of a document as it appears to rules. -/
def Document.toNode (d : Document) : Node := d.root.toNode []

end DepthRules.Xml
