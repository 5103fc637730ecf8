import DepthRules.Files.Basic
import DepthRules.Log
import DepthRules.Settings.Basic
import DepthRules.Xml.Document
import DepthRules.Xml.View

/-!
# Documents

Documents are read from bytes or from a file. An error names where the document is from.
-/

namespace DepthRules

/-- Why a document cannot be read: its file cannot be, or it is not well-formed. -/
inductive DocumentError where
  | unreadable (path : String) (cause : AccessError)
  | malformed (origin : String) (cause : Xml.Malformed)
  deriving Repr

/-- The wording of an error. -/
def DocumentError.message : DocumentError → String
  | .unreadable path cause => "Failed to read file " ++ path ++ ": " ++ cause.message
  | .malformed origin _ => "Failed to parse " ++ origin

namespace Document

/-- What messages call bytes that are from nowhere. -/
def bytesOrigin : String := "<bytes>"

/-- What messages call a text. -/
def stringOrigin : String := "<string>"

/-- What messages call a stream without a name. -/
def streamOrigin : String := "<stream>"

/-- The root of the document that bytes hold. -/
def parse (settings : ParseSettings) (origin : String) (bytes : List UInt8) :
    Except DocumentError Node :=
  match Xml.Document.read settings.options bytes with
  | .ok document => .ok document.toNode
  | .error cause => .error (.malformed origin cause)

/-- The root of the document in the file at a path. -/
def load (files : Files) (settings : ParseSettings) (path : String) : Task DocumentError Node := do
  let path := Path.normalize path
  Task.log .debug .document ("Parsing file: " ++ path)
  let bytes ← Task.ofExcept (DocumentError.unreadable path) (files.read path)
  let root ← Task.ofExcept id (parse settings path bytes)
  Task.log .debug .document ("Successfully parsed " ++ path ++ " (root <" ++ root.name ++ ">)")
  return root

end Document

end DepthRules
