import DepthRules.Xml.Name

/-!
# Documents

The tree of a document: elements with their names, the namespace declarations and attributes written
on them, and their content in order. Text may stand in several runs one after the other.
-/

namespace DepthRules.Xml

/-- A name as written, prefix and local part, with the namespace the prefix stands for there. A
prefix that stands for none is part of the local name. -/
structure QName where
  pfx : Option String
  localName : String
  uri : Option String
  deriving DecidableEq, Repr

/-- An attribute of an element. -/
structure Attribute where
  name : QName
  value : String
  deriving DecidableEq, Repr

/-- The name of an element, the namespace declarations on it, and its other attributes, each in the
order of the start tag. -/
structure Tag where
  name : QName
  declarations : List (Option String × String)
  attributes : List Attribute
  deriving DecidableEq, Repr

/-- A part of the content of an element. -/
inductive Item where
  | element (tag : Tag) (content : List Item)
  | text (run : String)
  | comment (body : String)
  | instruction (target body : String)
  | reference (entity : String)

mutual

/-- Whether two items are the same. -/
def Item.same : Item → Item → Bool
  | .element tag content, .element tag' content' => tag = tag' && sameItems content content'
  | .text run, .text run' => run = run'
  | .comment body, .comment body' => body = body'
  | .instruction target body, .instruction target' body' => target = target' && body = body'
  | .reference entity, .reference entity' => entity = entity'
  | _, _ => false

/-- Whether two lists of items are the same. -/
def sameItems : List Item → List Item → Bool
  | [], [] => true
  | item :: rest, item' :: rest' => item.same item' && sameItems rest rest'
  | _, _ => false

end

mutual

theorem Item.same_iff : (item item' : Item) → (item.same item' ↔ item = item')
  | .element _ content, item' => by
      cases item' with
      | element _ content' => simp [Item.same, sameItems_iff content content']
      | text | comment | instruction | reference => simp [Item.same]
  | .text _, item' => by cases item' <;> simp [Item.same]
  | .comment _, item' => by cases item' <;> simp [Item.same]
  | .instruction _ _, item' => by cases item' <;> simp [Item.same]
  | .reference _, item' => by cases item' <;> simp [Item.same]

theorem sameItems_iff : (items items' : List Item) → (sameItems items items' ↔ items = items')
  | [], items' => by cases items' <;> simp [sameItems]
  | item :: rest, items' => by
      cases items' with
      | nil => simp [sameItems]
      | cons item' rest' => simp [sameItems, item.same_iff item', sameItems_iff rest rest']

end

instance : DecidableEq Item := fun item item' => decidable_of_iff _ (item.same_iff item')

/-- A document's root element. -/
structure Document where
  tag : Tag
  content : List Item
  deriving DecidableEq

/-- The root element as an item. -/
def Document.root (d : Document) : Item := .element d.tag d.content

end DepthRules.Xml
