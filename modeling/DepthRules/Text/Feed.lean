import DepthRules.Text.Lines
import DepthRules.Text.Utf8

/-!
# Text in pieces

A file that is read as a text, piece by piece, is decoded in blocks of bytes, and bytes that are not
UTF-8 spoil only the piece for which their block is read. The bytes of a character that is not
complete in its block wait for the next block, and so does a carriage return at the end of a block,
since the line feed that belongs to it may follow.
-/

namespace DepthRules.Text

/-- A text that is read piece by piece: the bytes to come, those of a character that is not complete
yet, whether a carriage return waits, the characters that are decoded and not given out, and how
many bytes and characters the last block had. -/
structure Feed where
  bytes : List UInt8
  begun : List UInt8
  returnWaits : Bool
  ready : List Char
  blockBytes : Nat
  blockChars : Nat

/-- The characters that bytes write, and the bytes at their end that only begin a character. -/
def decodeBegun (bytes : List UInt8) : Except Utf8Error (List Char × List UInt8) :=
  match decodeUtf8 bytes with
  | .ok cs => .ok (cs, [])
  | .error e =>
      if e.fault = .unexpectedEnd then
        (decodeUtf8 (bytes.take e.position)).map (·, bytes.drop e.position)
      else .error e

namespace Feed

/-- The text of a file, of which nothing is read. -/
def start (bytes : List UInt8) : Feed := ⟨bytes, [], false, [], 0, 0⟩

/-- The least number of bytes in a block. -/
def leastBlock : Nat := 8192

/-- How many bytes are read where so many characters are wanted: at least the least block, and as
many as the characters would take if each took as many bytes as those of the last block. -/
def blockSize (f : Feed) (wanted : Nat) : Nat :=
  max leastBlock (f.blockBytes * wanted / f.blockChars)

/-- Reads a block. After the last byte comes an empty block, at which nothing may wait any
longer. -/
def block (f : Feed) (wanted : Nat) : Except Utf8Error Feed := do
  let size := f.blockSize wanted
  let taken := f.bytes.take size
  let final := taken.isEmpty
  let (cs, begun) ←
    if final then (decodeUtf8 f.begun).map (·, []) else decodeBegun (f.begun ++ taken)
  let cs := if f.returnWaits && (final || !cs.isEmpty) then '\r' :: cs else cs
  let returnWaits := !final && (if cs.isEmpty then f.returnWaits else cs.getLast? == some '\r')
  let ready := unifyNewlines (if returnWaits then cs.dropLast else cs)
  return ⟨f.bytes.drop size, begun, returnWaits, ready, taken.length, ready.length⟩

/-- Reads so many characters, or all there are if there are fewer. Every block takes one unit of
fuel. -/
def readFrom : Nat → Nat → Feed → Except Utf8Error (List Char × Feed)
  | 0, _, f => .ok ([], f)
  | fuel + 1, wanted, f => do
      let piece := f.ready.take wanted
      let f := { f with ready := f.ready.drop wanted }
      if piece.length = wanted then return (piece, f)
      let next ← f.block (wanted - piece.length)
      if f.bytes.isEmpty && next.ready.isEmpty then return (piece, next)
      let (more, last) ← readFrom fuel (wanted - piece.length) next
      return (piece ++ more, last)

/-- Reads so many characters, or all there are if there are fewer. -/
def read (f : Feed) (wanted : Nat) : Except Utf8Error (List Char × Feed) :=
  readFrom (f.bytes.length + 3) wanted f

end Feed

end DepthRules.Text
