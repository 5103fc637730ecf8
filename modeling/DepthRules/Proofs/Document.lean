import DepthRules.Document
import DepthRules.Proofs.Check.Ensures
import DepthRules.Proofs.Files.Path
import DepthRules.Proofs.Task

/-!
# What reading a document gives

Reading the document at a path gives the root that the bytes found at the normal form of the path
hold, whatever is logged meanwhile. The root of a document is an element.
-/

namespace DepthRules.Document

/-- The root of the document in the file at a path, without what is logged. -/
def fileRoot (files : Files) (settings : ParseSettings) (path : String) :
    Except DocumentError Node := do
  let bytes ← (files.read (Path.normalize path)).mapError
    (DocumentError.unreadable (Path.normalize path))
  parse settings (Path.normalize path) bytes

theorem load_gives (files : Files) (settings : ParseSettings) (path : String) :
    (load files settings path).Gives (fileRoot files settings path) := by
  rw [load]
  refine (Task.gives_log _ _ _).next ?_
  refine (Task.gives_ofExcept _ _).bind fun bytes => ?_
  refine (Task.gives_ofExcept_id _).keep fun root => ?_
  exact (Task.gives_log _ _ _).next (Task.gives_pure root)

/-- A path leads to the same document as its normal form. -/
theorem fileRoot_normalize (files : Files) (settings : ParseSettings) (path : String) :
    fileRoot files settings (Path.normalize path) = fileRoot files settings path := by
  rw [fileRoot, Path.normalize_normalize]
  rfl

theorem toNode_kind (d : Xml.Document) : d.toNode.kind = .element := rfl

theorem ensures_parse (settings : ParseSettings) (origin : String) (bytes : List UInt8) :
    Ensures (parse settings origin bytes) fun root => root.kind = .element := by
  unfold parse
  cases Xml.Document.read settings.options bytes with
  | error cause => exact .error _
  | ok d => exact .ok (toNode_kind d)

/-- The root of a document is an element. -/
theorem ensures_fileRoot (files : Files) (settings : ParseSettings) (path : String) :
    Ensures (fileRoot files settings path) fun root => root.kind = .element :=
  (Ensures.trivial _).bind fun bytes _ => ensures_parse settings _ bytes

end DepthRules.Document
