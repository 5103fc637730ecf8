import DepthRules.Decimal.Notation
import DepthRules.Text.Integer
import DepthRules.Text.Quoted
import DepthRules.Value.Basic

/-!
# How values are written in messages

Every value has a written form, and text has two: quoted as part of a message (`written`), and
plain where a value stands for a text (`plain`). Dates and times have two forms as well. A number
of more digits than a literal may have is not written at all, and neither is a collection with such
a number in it. Where a collection stands inside itself, dots take the place of its content.
-/

namespace DepthRules.Value

open Text Decimal

/-- The decimal digits of a number, with zeros in front up to `width`. -/
def padded (width n : Nat) : List Char :=
  let digits := digitsOf n
  List.replicate (width - digits.length) '0' ++ digits

/-- The pieces with `", "` between neighbours. -/
def commaSeparated (pieces : List (List Char)) : List Char := [',', ' '].intercalate pieces

/-- A call of a named constructor with the given arguments. -/
def construction (name : String) (arguments : List (List Char)) : List Char :=
  name.toList ++ '(' :: (commaSeparated arguments ++ [')'])

/-- A duration in seconds, as days and seconds. -/
def writtenDuration (seconds : Int) : List Char :=
  let days := seconds.fdiv 86400
  let rest := seconds.fmod 86400
  construction "datetime.timedelta"
    ((if days = 0 then [] else [("days=" ++ toString days).toList]) ++
      (if rest = 0 then [] else [("seconds=" ++ toString rest).toList]))

/-- The wording of a calendar error. -/
def CalendarError.message : CalendarError → String
  | .year y => "year " ++ toString y ++ " is out of range"
  | .month => "month must be in 1..12"
  | .day => "day is out of range for month"
  | .hour => "hour must be in 0..23"
  | .minute => "minute must be in 0..59"
  | .second => "second must be in 0..59"
  | .offset s =>
      "offset must be a timedelta strictly between -timedelta(hours=24) and " ++
        "timedelta(hours=24), not " ++ String.ofList (writtenDuration s) ++ "."

/-- A date as year, month and day with hyphens. -/
def Date.plain (d : Date) : List Char :=
  padded 4 d.year ++ '-' :: (padded 2 d.month ++ '-' :: padded 2 d.day)

/-- A date as a construction. -/
def Date.written (d : Date) : List Char :=
  construction "datetime.date" (([d.year, d.month, d.day]).map digitsOf)

/-- An offset as a sign, hours and minutes, and seconds if there are any. -/
def plainOffset (offset : Int) : List Char :=
  let s := offset.natAbs
  (if offset < 0 then '-' else '+') :: (padded 2 (s / 3600) ++ ':' :: (padded 2 (s / 60 % 60) ++
    (if s % 60 = 0 then [] else ':' :: padded 2 (s % 60))))

/-- A moment as its date, its time, a fraction of six digits if there is one, and its offset. -/
def Moment.plain (m : Moment) : List Char :=
  let c := m.clock
  m.date.plain ++
    ' ' :: (padded 2 c.hour ++ ':' :: (padded 2 c.minute ++ ':' :: padded 2 c.second)) ++
    (if c.microsecond = 0 then [] else '.' :: padded 6 c.microsecond) ++
    (match m.offset with
      | none => []
      | some offset => plainOffset offset)

/-- A moment as a construction; seconds and their fraction are left out where they are zero. -/
def Moment.written (m : Moment) : List Char :=
  let c := m.clock
  let small :=
    if c.microsecond = 0 then (if c.second = 0 then [] else [c.second])
    else [c.second, c.microsecond]
  construction "datetime.datetime"
    (([m.date.year, m.date.month, m.date.day, c.hour, c.minute] ++ small).map digitsOf ++
      (match m.offset with
        | none => []
        | some 0 => ["tzinfo=datetime.timezone.utc".toList]
        | some offset =>
            ["tzinfo=".toList ++ construction "datetime.timezone" [writtenDuration offset]]))

/-- How one byte is written between two `quote` characters. -/
def writtenByte (quote : Char) (b : UInt8) : List Char :=
  let c := Char.ofNat b.toNat
  if c == quote || c == '\\' then ['\\', c]
  else if c == '\n' then ['\\', 'n']
  else if c == '\r' then ['\\', 'r']
  else if c == '\t' then ['\\', 't']
  else if 0x20 ≤ b && b < 0x7F then [c]
  else '\\' :: 'x' :: hexDigits 2 b.toNat

/-- Bytes between quotes after the letter b. -/
def writtenBytes (bs : List UInt8) : List Char :=
  let quote := quoteFor (bs.map fun b => Char.ofNat b.toNat)
  'b' :: quote :: (bs.flatMap (writtenByte quote) ++ [quote])

/-- An integer in decimal, unless it has too many digits. -/
def writtenInt? (i : Int) : Option (List Char) :=
  let digits := digitsOf i.natAbs
  if maxDigits < digits.length then none
  else some (if i < 0 then '-' :: digits else digits)

/-- A collection in the place where it occurs inside itself. -/
def ellipsis : Value → List Char
  | .dict _ => "\x7b...\x7d".toList
  | .set _ => "\x7b...\x7d".toList
  | .pair _ _ => "(...)".toList
  | _ => "[...]".toList

mutual

/-- The written form of a value that stands inside the collections `enclosing`. -/
def writtenIn? (enclosing : List Nat) : Value → Option (List Char)
  | .null => some "None".toList
  | .bool b => some (if b then "True".toList else "False".toList)
  | .int i => writtenInt? i
  | .real x => some x.written
  | .str s => some (quotedCodes s)
  | .bytes bs => some (writtenBytes bs)
  | .date d => some d.written
  | .moment m => some m.written
  | .list items => do
      let pieces ← writtenAll? enclosing items
      return '[' :: (commaSeparated pieces ++ [']'])
  | .pair a b => do
      let first ← writtenIn? enclosing a
      let second ← writtenIn? enclosing b
      return '(' :: (commaSeparated [first, second] ++ [')'])
  | .set items => do
      let pieces ← writtenAll? enclosing items
      return if pieces.isEmpty then "set()".toList
        else '\x7b' :: (commaSeparated pieces ++ ['\x7d'])
  | .dict entries => do
      let pieces ← writtenEntries? enclosing entries
      return '\x7b' :: (commaSeparated pieces ++ ['\x7d'])
  | .shared identity collection =>
      if enclosing.contains identity then some (ellipsis collection.get)
      else writtenIn? (identity :: enclosing) collection.get
termination_by v => sizeOf v

/-- The written forms of the items of a collection. -/
def writtenAll? (enclosing : List Nat) : List Value → Option (List (List Char))
  | [] => some []
  | v :: rest => do
      let piece ← writtenIn? enclosing v
      let pieces ← writtenAll? enclosing rest
      return piece :: pieces
termination_by items => sizeOf items

/-- The written forms of the entries of a mapping. -/
def writtenEntries? (enclosing : List Nat) : List (Value × Value) → Option (List (List Char))
  | [] => some []
  | (k, v) :: rest => do
      let key ← writtenIn? enclosing k
      let value ← writtenIn? enclosing v
      let pieces ← writtenEntries? enclosing rest
      return (key ++ ':' :: ' ' :: value) :: pieces
termination_by entries => sizeOf entries

end

/-- The written form of a value on its own. -/
def written? (v : Value) : Option (List Char) := writtenIn? [] v

/-- The form of a value that stands for a text. -/
def plain? (v : Value) : Option Str :=
  match v with
  | .str s => some s
  | .date d => some (Str.ofChars d.plain)
  | .moment m => some (Str.ofChars m.plain)
  | v => v.written?.map Str.ofChars

/-- What is said of a value that has no written form. -/
def tooManyDigits : String :=
  "Exceeds the limit (4300 digits) for integer string conversion; " ++
    "use sys.set_int_max_str_digits() to increase the limit"

end DepthRules.Value
