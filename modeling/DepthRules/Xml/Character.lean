/-!
# Character classes of XML

The characters a document may hold, those names are made of, and the four blanks.
-/

namespace DepthRules.Xml

/-- Characters a document may hold: all but most controls and the last two of the first plane. -/
def isAllowed (c : Char) : Bool :=
  let n := c.toNat
  0x20 ≤ n && n ≠ 0xFFFE && n ≠ 0xFFFF || n == 0x9 || n == 0xA || n == 0xD

/-- The blanks of markup. -/
def isSpace (c : Char) : Bool := c == ' ' || c == '\t' || c == '\n' || c == '\r'

/-- The ranges of characters that a name may start with, the colon apart. -/
def nameStartRanges : List (Nat × Nat) :=
  [(0xC0, 0xD6), (0xD8, 0xF6), (0xF8, 0x2FF), (0x370, 0x37D), (0x37F, 0x1FFF), (0x200C, 0x200D),
    (0x2070, 0x218F), (0x2C00, 0x2FEF), (0x3001, 0xD7FF), (0xF900, 0xFDCF), (0xFDF0, 0xFFFD),
    (0x10000, 0xEFFFF)]

/-- ASCII letters. -/
def isLetter (c : Char) : Bool := ('a' ≤ c && c ≤ 'z') || ('A' ≤ c && c ≤ 'Z')

/-- ASCII digits. -/
def isDigit (c : Char) : Bool := '0' ≤ c && c ≤ '9'

/-- Characters that a name without a prefix may start with. -/
def isNameStart (c : Char) : Bool :=
  isLetter c || c == '_' ||
    (0x80 ≤ c.toNat && nameStartRanges.any fun r => r.1 ≤ c.toNat && c.toNat ≤ r.2)

/-- Characters that a name without a prefix is made of. -/
def isNameChar (c : Char) : Bool :=
  isNameStart c || isDigit c || c == '-' || c == '.' || c.toNat == 0xB7 ||
    (0x300 ≤ c.toNat && c.toNat ≤ 0x36F) || (0x203F ≤ c.toNat && c.toNat ≤ 0x2040)

/-- Characters of a public identifier. -/
def isPublicChar (c : Char) : Bool :=
  isLetter c || isDigit c || c == ' ' || c == '\n' || c == '\r' ||
    "-'()+,./:=?;!*#@$_%".toList.contains c

end DepthRules.Xml
