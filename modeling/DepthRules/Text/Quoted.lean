import DepthRules.Text.Hex
import DepthRules.Text.Printable

/-!
# Quoted text

Text quoted in a message stands in single quotes, or in double quotes if it holds single quotes and
no double ones. A backslash and the quote in use are written with a backslash before them; line
feed, carriage return and tab have short escapes, and every other character that is not printable
is written by its code point.
-/

namespace DepthRules.Text

/-- The escape of a code point by number: two, four or eight hexadecimal digits. -/
def codeEscape (n : Nat) : List Char :=
  if n < 0x100 then '\\' :: 'x' :: hexDigits 2 n
  else if n < 0x10000 then '\\' :: 'u' :: hexDigits 4 n
  else '\\' :: 'U' :: hexDigits 8 n

/-- How one character is written between two `quote` characters. -/
def quotedChar (quote c : Char) : List Char :=
  if c == quote || c == '\\' then ['\\', c]
  else if c == '\n' then ['\\', 'n']
  else if c == '\r' then ['\\', 'r']
  else if c == '\t' then ['\\', 't']
  else if isPrintable c then [c]
  else codeEscape c.toNat

/-- The quote a text is written with. -/
def quoteFor (cs : List Char) : Char :=
  if cs.contains '\'' && !cs.contains '"' then '"' else '\''

/-- The text between quotes, with escapes. -/
def quoted (cs : List Char) : List Char :=
  let quote := quoteFor cs
  quote :: (cs.flatMap (quotedChar quote) ++ [quote])

/-- How one code point is written between two `quote` characters; surrogates are not printable. -/
def quotedCode (quote : Char) (code : Nat) : List Char :=
  if code.isValidChar then quotedChar quote (Char.ofNat code) else codeEscape code

/-- Code points between quotes, with escapes. -/
def quotedCodes (codes : List Nat) : List Char :=
  let quote := quoteFor (codes.map Char.ofNat)
  quote :: (codes.flatMap (quotedCode quote) ++ [quote])

/-- `quoted` on strings. -/
def quote (s : String) : String := String.ofList (quoted s.toList)

end DepthRules.Text
