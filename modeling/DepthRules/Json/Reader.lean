import DepthRules.Json.Basic
import DepthRules.Text.Hex
import DepthRules.Text.Integer

/-!
# Reading JSON

A reader is given what the values mean (`Meaning`), so that the same grammar reads JSON values
(`read?`) and values of a data file (`readData?`). Besides the numbers of JSON the words for
infinity and for the value that is no number are read. Members of an object with the same name are
merged, the last value counting. Half of a surrogate pair stays the surrogate it is.
-/

namespace DepthRules.Json

open Text Decimal

/-- The blanks of JSON. -/
def isSpace (c : Char) : Bool := c == ' ' || c == '\n' || c == '\r' || c == '\t'

/-- The text without the blanks it starts with. -/
def skipSpace (cs : List Char) : List Char := cs.dropWhile isSpace

/-- What the values that are read mean. A text is given by its code points. Whole numbers may have a
greatest number of digits. -/
structure Meaning (α : Type) where
  mostDigits : Option Nat
  null : α
  bool : Bool → α
  int : Int → α
  real : Double → α
  text : Str → α
  arr : List α → α
  obj : List (Str × α) → α

/-- The code unit that four hexadecimal digits stand for, and the text after them. -/
def readUnit? : List Char → Option (Nat × List Char)
  | a :: b :: c :: d :: rest => do
      let a ← hexValue? a
      let b ← hexValue? b
      let c ← hexValue? c
      let d ← hexValue? d
      return (((a * 16 + b) * 16 + c) * 16 + d, rest)
  | _ => none

/-- The character a short escape stands for. -/
def shortEscape? (c : Char) : Option Char :=
  if c == '"' || c == '\\' || c == '/' then some c
  else if c == 'n' then some '\n'
  else if c == 'r' then some '\r'
  else if c == 't' then some '\t'
  else if c == 'b' then some (Char.ofNat 8)
  else if c == 'f' then some (Char.ofNat 12)
  else none

/-- The code point that the text after `\u` stands for, and the text after it. -/
def readUnicode? (cs : List Char) : Option (Nat × List Char) := do
  let (unit, rest) ← readUnit? cs
  if 0xD800 ≤ unit ∧ unit < 0xDC00 then
    match rest with
    | '\\' :: 'u' :: more =>
        match readUnit? more with
        | some (low, rest') =>
            if 0xDC00 ≤ low ∧ low < 0xE000 then
              return (0x10000 + (unit - 0xD800) * 0x400 + (low - 0xDC00), rest')
            else return (unit, rest)
        | none => return (unit, rest)
    | _ => return (unit, rest)
  else return (unit, rest)

/-- The rest of a text after its opening quote, as code points, and what follows its closing quote;
`done` holds those before, last first. -/
def readString? : Nat → List Char → Str → Option (Str × List Char)
  | 0, _, _ => none
  | _ + 1, [], _ => none
  | fuel + 1, c :: rest, done =>
      if c == '"' then some (done.reverse, rest)
      else if c == '\\' then
        match rest with
        | 'u' :: more => do
            let (code, rest') ← readUnicode? more
            readString? fuel rest' (code :: done)
        | e :: more => do
            let d ← shortEscape? e
            readString? fuel more (d.toNat :: done)
        | [] => none
      else if c.toNat < 0x20 then none
      else readString? fuel rest (c.toNat :: done)

/-- The number written by ASCII digits. -/
def asciiNumber (cs : List Char) : Nat := ofDigits (cs.filterMap asciiDigit?)

/-- The digits a text starts with, and the rest. -/
def takeDigits (cs : List Char) : List Char × List Char :=
  cs.span fun c => (asciiDigit? c).isSome

/-- The exponent a text starts with, zero if it starts with none, whether there is one, and the
rest. -/
def readExponent (cs : List Char) : Int × Bool × List Char :=
  match cs with
  | c :: rest =>
      if c == 'e' || c == 'E' then
        let (negative, body) := match rest with
          | '-' :: more => (true, more)
          | '+' :: more => (false, more)
          | more => (false, more)
        let (digits, after) := takeDigits body
        if digits.isEmpty then (0, false, cs)
        else (if negative then -(asciiNumber digits : Int) else asciiNumber digits, true, after)
      else (0, false, cs)
  | [] => (0, false, [])

/-- The digits after a point that a text starts with, none if it starts with no point and digit, and
the rest. -/
def readFraction (cs : List Char) : List Char × List Char :=
  match cs with
  | '.' :: rest =>
      let (digits, after) := takeDigits rest
      if digits.isEmpty then ([], cs) else (digits, after)
  | _ => ([], cs)

/-- The number a text without a sign starts with, and the rest. -/
def readNumber? {α : Type} (meaning : Meaning α) (negative : Bool) (cs : List Char) :
    Option (α × List Char) :=
  let (digits, rest) := takeDigits cs
  match digits with
  | [] => none
  | d :: more =>
      let (whole, rest) := if d == '0' then (['0'], more ++ rest) else (digits, rest)
      let (fraction, rest) := readFraction rest
      let (exponent, hasExponent, rest) := readExponent rest
      if fraction.isEmpty && !hasExponent then
        if meaning.mostDigits.any fun most => decide (most < whole.length) then none
        else
          let i : Int := if negative then -(asciiNumber whole : Int) else asciiNumber whole
          some (meaning.int i, rest)
      else
        some (meaning.real (.ofDecimal negative (asciiNumber (whole ++ fraction))
          (exponent - (fraction.length : Int))), rest)

/-- The text after `word`, if it starts with it. -/
def afterWord? (word : String) (cs : List Char) : Option (List Char) :=
  if word.toList.isPrefixOf cs then some (cs.drop word.length) else none

/-- The words that stand for values. -/
def words {α : Type} (meaning : Meaning α) : List (String × α) :=
  [("null", meaning.null), ("true", meaning.bool true), ("false", meaning.bool false),
    ("NaN", meaning.real .nan), ("Infinity", meaning.real (.infinite false)),
    ("-Infinity", meaning.real (.infinite true))]

/-- The word or number a text starts with, and the rest. -/
def readScalar? {α : Type} (meaning : Meaning α) (cs : List Char) : Option (α × List Char) :=
  match (words meaning).findSome? fun w => (afterWord? w.1 cs).map (w.2, ·) with
  | some found => some found
  | none =>
      match cs with
      | '-' :: rest => readNumber? meaning true rest
      | _ => readNumber? meaning false cs

mutual

/-- The value a text starts with, and the rest. -/
def readValue? {α : Type} (meaning : Meaning α) : Nat → List Char → Option (α × List Char)
  | 0, _ => none
  | fuel + 1, cs =>
      match cs with
      | '"' :: rest => do
          let (s, rest) ← readString? (rest.length + 1) rest []
          return (meaning.text s, rest)
      | '[' :: rest =>
          match skipSpace rest with
          | ']' :: rest => some (meaning.arr [], rest)
          | rest => do
              let (items, rest) ← readItems? meaning fuel rest
              return (meaning.arr items, rest)
      | '\x7b' :: rest =>
          match skipSpace rest with
          | '\x7d' :: rest => some (meaning.obj [], rest)
          | rest => do
              let (members, rest) ← readMembers? meaning fuel rest
              return (meaning.obj members, rest)
      | _ => readScalar? meaning cs

/-- The items of an array up to its closing bracket, and the text after it. -/
def readItems? {α : Type} (meaning : Meaning α) : Nat → List Char → Option (List α × List Char)
  | 0, _ => none
  | fuel + 1, cs => do
      let (a, rest) ← readValue? meaning fuel (skipSpace cs)
      match skipSpace rest with
      | ',' :: rest => do
          let (items, rest) ← readItems? meaning fuel rest
          return (a :: items, rest)
      | ']' :: rest => return ([a], rest)
      | _ => none

/-- The members of an object up to its closing brace, and the text after it. -/
def readMembers? {α : Type} (meaning : Meaning α) :
    Nat → List Char → Option (List (Str × α) × List Char)
  | 0, _ => none
  | fuel + 1, cs =>
      match skipSpace cs with
      | '"' :: rest => do
          let (name, rest) ← readString? (rest.length + 1) rest []
          match skipSpace rest with
          | ':' :: rest => do
              let (a, rest) ← readValue? meaning fuel (skipSpace rest)
              match skipSpace rest with
              | ',' :: rest => do
                  let (members, rest) ← readMembers? meaning fuel rest
                  return ((name, a) :: members, rest)
              | '\x7d' :: rest => return ([(name, a)], rest)
              | _ => none
          | _ => none
      | _ => none

end

/-- What a text means, if it is one value. -/
def readChars? {α : Type} (meaning : Meaning α) (cs : List Char) : Option α := do
  let (a, rest) ← readValue? meaning (cs.length + 1) (skipSpace cs)
  if (skipSpace rest).isEmpty then some a else none

/-- What texts mean as JSON values. -/
def meaning : Meaning Json where
  mostDigits := some maxDigits
  null := .null
  bool := .bool
  int := .int
  real := .real
  text := .str
  arr := .arr
  obj members := .obj (Entries.ofList members)

/-- The value a string is, if it is one. -/
def read? (s : String) : Option Json := readChars? meaning s.toList

/-- What texts mean as values of a data file. -/
def dataMeaning : Meaning Value where
  mostDigits := some maxDigits
  null := .null
  bool := .bool
  int := .int
  real := .real
  text := .str
  arr := .list
  obj members := .dict (Value.ofEntries (members.map fun m => (.str m.1, m.2)))

/-- The value of a data file that a string is, if it is one. -/
def readData? (s : String) : Option Value := readChars? dataMeaning s.toList

end DepthRules.Json
