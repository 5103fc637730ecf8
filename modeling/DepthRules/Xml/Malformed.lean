/-!
# Faults and notes

A fault ends the reading of a document. Lesser things are noted: warnings, and errors of namespaces
and identifiers, which do not stop the reader. A document is refused if the last note is an error.
-/

namespace DepthRules.Xml

/-- Why a document cannot be read. -/
inductive Malformed where
  | encoding
  | character
  | declaration
  | doctype
  | markupDeclaration
  | name
  | nameTooLong
  | tag
  | attribute
  | duplicateAttribute
  | value
  | reference
  | undeclaredEntity
  | unsuitableEntity
  | entityLoop
  | entityNesting
  | amplification
  | comment
  | instruction
  | cdata
  | bracketsInText
  | mismatchedTag
  | unclosed
  | unbalancedEntity
  | noElement
  | trailing
  | tooDeep
  | namespaces
  deriving DecidableEq, Repr

/-- How serious a note is. -/
inductive Level where
  | warning
  | error
  deriving DecidableEq, Repr

/-- What has been noted: the level of the last note, and how many there were of each. -/
structure Notes where
  last : Option Level
  warnings : Nat
  errors : Nat
  deriving Repr

/-- Of each level only so many notes are taken. -/
def noteLimit : Nat := 100

namespace Notes

/-- Nothing noted. -/
def none : Notes := ⟨Option.none, 0, 0⟩

/-- Notes a warning. -/
def warn (n : Notes) : Notes :=
  if noteLimit ≤ n.warnings then n else { n with last := some .warning, warnings := n.warnings + 1 }

/-- Notes an error. -/
def error (n : Notes) : Notes :=
  if noteLimit ≤ n.errors then n else { n with last := some .error, errors := n.errors + 1 }

end Notes

end DepthRules.Xml
