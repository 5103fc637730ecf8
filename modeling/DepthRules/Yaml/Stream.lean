import DepthRules.Text.Feed
import DepthRules.Yaml.Fault
import DepthRules.Yaml.Spot

/-!
# The text of a file

A file is read in pieces of so many characters, the first two of them at once, and each further one
only when all before it is used up. A fault in a later piece therefore counts only if the document
is read that far: until then the text just breaks off there.
-/

namespace DepthRules.Yaml

open Text

/-- A text, and the fault at which it breaks off if it is not complete. -/
structure Stream where
  text : List Char
  breach : Option Fault

namespace Stream

/-- The number of characters in a piece. -/
def pieceLength : Nat := 4096

/-- Reads so many pieces. -/
def pieces : Nat → Feed → Except Utf8Error (List Char × Feed)
  | 0, feed => .ok ([], feed)
  | count + 1, feed => do
      let (piece, feed) ← feed.read pieceLength
      let (more, feed) ← pieces count feed
      return (piece ++ more, feed)

/-- Reads so many pieces at once, and then one after the other until there are no more or one is at
fault. Each time takes one unit of fuel. -/
def ofFeed : Nat → Nat → Feed → Stream
  | 0, _, _ => ⟨[], none⟩
  | fuel + 1, count, feed =>
      match pieces count feed with
      | .error cause => ⟨[], some (.encoding cause)⟩
      | .ok ([], _) => ⟨[], none⟩
      | .ok (text, feed) =>
          if text.all isPermitted then
            let later := ofFeed fuel 1 feed
            ⟨text ++ later.text, later.breach⟩
          else ⟨[], some .malformed⟩

/-- The text of a file. -/
def ofBytes (bytes : List UInt8) : Stream := ofFeed (bytes.length + 2) 2 (.start bytes)

end Stream

end DepthRules.Yaml
