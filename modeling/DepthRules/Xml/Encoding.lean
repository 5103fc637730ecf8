import DepthRules.Charset.Escaped
import DepthRules.Charset.Switched
import DepthRules.Text.Lowercase
import DepthRules.Text.Utf8

/-!
# Encodings of documents

The first bytes of a document show its encoding if they are a mark or the beginning of markup in
units of more than one byte. Otherwise the document names it, and is in UTF-8 if it does not.
-/

namespace DepthRules.Xml

open Charset Text

/-- An encoding that documents are read in. -/
inductive Encoding where
  | utf8
  | utf16 (bigEndian : Bool)
  | utf32 (bigEndian : Bool)
  | utf7
  | escapedWide
  | escapedUnits
  | ascii
  | latin1
  | page (page : Page)
  | markedPage (page : MarkedPage)
  | shiftJis
  | windows932
  | eucJp
  | iso2022Jp (variant : JapaneseVariant)
  | eucKr
  | windows949
  | johab
  | iso2022Kr
  | eucCn
  | gbk
  | windows936
  | gb18030
  | hz
  | iso2022Cn
  | bigFive
  | windows950
  | hongKong
  | eucTw
  deriving DecidableEq, Repr

namespace Encoding

/-- How the first bytes show an encoding. -/
structure Shown where
  encoding : Encoding
  markBytes : Nat

/-- The encoding that the first bytes show. -/
def shown? : List UInt8 → Option Shown
  | 0xFF :: 0xFE :: 0 :: 0 :: _ => some ⟨.utf32 false, 4⟩
  | 0 :: 0 :: 0xFE :: 0xFF :: _ => some ⟨.utf32 true, 4⟩
  | 0 :: 0 :: 0 :: 0x3C :: _ => some ⟨.utf32 true, 0⟩
  | 0x3C :: 0 :: 0 :: 0 :: _ => some ⟨.utf32 false, 0⟩
  | 0 :: 0x3C :: 0 :: 0x3F :: _ => some ⟨.utf16 true, 0⟩
  | 0x3C :: 0 :: 0x3F :: 0 :: _ => some ⟨.utf16 false, 0⟩
  | 0xFE :: 0xFF :: _ :: _ :: _ => some ⟨.utf16 true, 2⟩
  | 0xFF :: 0xFE :: _ :: _ :: _ => some ⟨.utf16 false, 2⟩
  | 0xEF :: 0xBB :: 0xBF :: _ :: _ => some ⟨.utf8, 3⟩
  | _ => none

/-- The encodings that are no pages and whose units are bytes, with their names in lower case. -/
def byteEncodings : List (Encoding × List String) := [
  (.utf8, ["utf-8", "utf8"]),
  (.utf7, ["utf-7", "unicode-1-1-utf-7", "csunicode11utf7"]),
  (.escapedWide, ["c99"]),
  (.escapedUnits, ["java"]),
  (.ascii, ["us-ascii", "ascii", "iso646-us", "iso-ir-6", "ansi_x3.4-1968", "ansi_x3.4-1986",
    "cp367", "ibm367", "us", "csascii"]),
  (.latin1, ["iso-8859-1", "iso_8859-1", "iso8859-1", "iso-ir-100", "cp819", "ibm819", "latin1",
    "l1", "csisolatin1", "iso-latin-1"]),
  (.shiftJis, ["shift_jis", "shift-jis", "sjis", "ms_kanji", "csshiftjis"]),
  (.windows932, ["cp932"]),
  (.eucJp, ["euc-jp", "eucjp", "extended_unix_code_packed_format_for_japanese",
    "cseucpkdfmtjapanese"]),
  (.iso2022Jp .basic, ["iso-2022-jp", "csiso2022jp"]),
  (.iso2022Jp .first, ["iso-2022-jp-1"]),
  (.iso2022Jp .second, ["iso-2022-jp-2", "csiso2022jp2"]),
  (.iso2022Jp .windows, ["iso-2022-jp-ms"]),
  (.eucKr, ["euc-kr", "euckr", "cseuckr"]),
  (.windows949, ["cp949", "uhc"]),
  (.johab, ["johab", "cp1361"]),
  (.iso2022Kr, ["iso-2022-kr", "csiso2022kr"]),
  (.eucCn, ["euc-cn", "euccn", "gb2312", "cn-gb", "csgb2312"]),
  (.gbk, ["gbk"]),
  (.windows936, ["cp936", "ms936", "windows-936"]),
  (.gb18030, ["gb18030"]),
  (.hz, ["hz", "hz-gb-2312"]),
  (.iso2022Cn, ["iso-2022-cn", "csiso2022cn", "iso-2022-cn-ext"]),
  (.bigFive, ["big5", "big-5", "big-five", "bigfive", "cn-big5", "csbig5"]),
  (.windows950, ["cp950"]),
  (.hongKong, ["big5-hkscs", "big5hkscs"]),
  (.eucTw, ["euc-tw", "euctw", "cseuctw"])]

/-- The encodings whose units are bytes, with their names in lower case. -/
def namedEncodings : List (Encoding × List String) :=
  byteEncodings ++ pages.map (fun p => (.page p, p.names)) ++
    markedPages.map fun p => (.markedPage p, p.page.names)

/-- The encoding with a name, if its units are bytes. -/
def ofName? (name : String) : Option Encoding :=
  let name := String.ofList (lowercase name.toList)
  (namedEncodings.find? fun named => named.2.contains name).map Prod.fst

/-- The names a document may give for an encoding that its first bytes show. -/
def isNamed (e : Encoding) (name : String) : Bool :=
  let name := String.ofList (lowercase name.toList)
  match e with
  | .utf8 => name = "utf-8" || name = "utf8"
  | .utf16 true => name = "utf-16" || name = "utf-16be" || name = "utf16"
  | .utf16 false => name = "utf-16" || name = "utf-16le" || name = "utf16"
  | _ => true

/-- A code of UTF-8. -/
def utf8Code : Code := fun b rest =>
  match decodeChar b rest with
  | .ok code => some code
  | .error _ => none

/-- A code of a page. -/
def pageCode (page : Page) : Code := fun b _ => (page.character? b).map (·, 0)

/-- The number that two bytes stand for. -/
def pairValue (bigEndian : Bool) (a b : UInt8) : Nat :=
  if bigEndian then a.toNat * 256 + b.toNat else b.toNat * 256 + a.toNat

/-- Decodes units of two bytes; `high` is the first half of a pair of units. -/
def decodeUtf16 (bigEndian : Bool) : Option Nat → List Char → List UInt8 → Decoded
  | none, done, [] => ⟨done.reverse, false⟩
  | some _, done, [] => ⟨done.reverse, true⟩
  | _, done, [_] => ⟨done.reverse, true⟩
  | high, done, a :: b :: rest =>
      let n := pairValue bigEndian a b
      match high with
      | some h =>
          if 0xDC00 ≤ n && n < 0xE000 then
            decodeUtf16 bigEndian none
              (Char.ofNat (0x10000 + (h - 0xD800) * 0x400 + (n - 0xDC00)) :: done) rest
          else ⟨done.reverse, true⟩
      | none =>
          if 0xD800 ≤ n && n < 0xDC00 then decodeUtf16 bigEndian (some n) done rest
          else if 0xDC00 ≤ n && n < 0xE000 then ⟨done.reverse, true⟩
          else decodeUtf16 bigEndian none (Char.ofNat n :: done) rest

/-- Decodes units of four bytes. -/
def decodeUtf32 (bigEndian : Bool) : List Char → List UInt8 → Decoded
  | done, [] => ⟨done.reverse, false⟩
  | done, a :: b :: c :: d :: rest =>
      let n :=
        if bigEndian then pairValue true a b * 65536 + pairValue true c d
        else pairValue false c d * 65536 + pairValue false a b
      if n.isValidChar then decodeUtf32 bigEndian (Char.ofNat n :: done) rest
      else ⟨done.reverse, true⟩
  | done, _ => ⟨done.reverse, true⟩

/-- Decodes the bytes of a document. -/
def decode (e : Encoding) (bytes : List UInt8) : Decoded :=
  match e with
  | .utf8 => decodeCodes utf8Code bytes
  | .utf16 bigEndian => decodeUtf16 bigEndian none [] bytes
  | .utf32 bigEndian => decodeUtf32 bigEndian [] bytes
  | .utf7 => Charset.utf7 bytes
  | .escapedWide => decodeCodes Charset.escapedWide bytes
  | .escapedUnits => decodeCodes Charset.escapedUnits bytes
  | .ascii => decodeCodes (fun b _ => (ascii? b).map (·, 0)) bytes
  | .latin1 => decodeCodes (fun b _ => some (Char.ofNat b.toNat, 0)) bytes
  | .page p => decodeCodes (pageCode p) bytes
  | .markedPage p =>
      let decoded := decodeCodes (pageCode p.page) bytes
      { decoded with characters := p.marks.join decoded.characters }
  | .shiftJis => decodeCodes Charset.shiftJis bytes
  | .windows932 => decodeCodes Charset.windows932 bytes
  | .eucJp => decodeCodes Charset.eucJp bytes
  | .iso2022Jp variant => Charset.iso2022Jp variant bytes
  | .eucKr => decodeCodes Charset.eucKr bytes
  | .windows949 => decodeCodes Charset.windows949 bytes
  | .johab => decodeCodes Charset.johab bytes
  | .iso2022Kr => Charset.iso2022Kr bytes
  | .eucCn => decodeCodes Charset.eucCn bytes
  | .gbk => decodeCodes Charset.gbk bytes
  | .windows936 => decodeCodes Charset.windows936 bytes
  | .gb18030 => decodeCodes Charset.gb18030 bytes
  | .hz => Charset.hz bytes
  | .iso2022Cn => Charset.iso2022Cn bytes
  | .bigFive => decodeCodes Charset.bigFive bytes
  | .windows950 => decodeCodes Charset.windows950 bytes
  | .hongKong => decodeFrom Charset.hongKong () [] bytes
  | .eucTw => decodeCodes Charset.eucTw bytes

end Encoding

end DepthRules.Xml
