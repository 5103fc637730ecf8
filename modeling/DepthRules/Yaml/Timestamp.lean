import DepthRules.Text.Integer
import DepthRules.Value.Calendar
import DepthRules.Yaml.Fault
import DepthRules.Yaml.Spot

/-!
# Timestamps

A timestamp is a date alone, or a date and a time of day with an optional fraction of a second and
an optional offset from universal time.
-/

namespace DepthRules.Yaml

open Text Value

/-- The value of a run of ASCII digits. -/
def numberOf (digits : List Char) : Nat := ofDigits (digits.map fun c => c.toNat - '0'.toNat)

/-- So many digits, and the rest. -/
def digitsExactly (n : Nat) (cs : List Char) : Option (Nat × List Char) :=
  let digits := cs.take n
  if digits.length = n && digits.all Char.isDigit then some (numberOf digits, cs.drop n) else none

/-- One or two digits, and the rest. -/
def oneOrTwoDigits (cs : List Char) : Option (Nat × List Char) :=
  (digitsExactly 2 cs).or (digitsExactly 1 cs)

/-- The rest after a character. -/
def afterChar (c : Char) : List Char → Option (List Char)
  | d :: rest => if c == d then some rest else none
  | [] => none

/-- The parts of a timestamp as they are written: the day, and the time with its fraction and, if it
has one, its offset in minutes. -/
structure TimestampParts where
  year : Nat
  month : Nat
  day : Nat
  time : Option (Nat × Nat × Nat × Nat × Option Int)
  deriving DecidableEq, Repr

/-- The millionths of a second that the digits of a fraction stand for; those after the sixth do not
count. -/
def microseconds (fraction : List Char) : Nat :=
  let kept := fraction.take 6
  numberOf (kept ++ List.replicate (6 - kept.length) '0')

/-- An offset: the letter Z, or a sign with hours and perhaps minutes, up to the end of the text. -/
def offsetParts? (cs : List Char) : Option (Option Int) :=
  match cs.dropWhile isBlank with
  | [] => if cs.isEmpty then some none else none
  | ['Z'] => some (some 0)
  | sign :: rest =>
      if sign == '+' || sign == '-' then do
        let (hours, rest) ← oneOrTwoDigits rest
        let minutes ← match rest with
          | [] => some 0
          | rest => do
              let (minutes, rest) ← digitsExactly 2 (← afterChar ':' rest)
              if rest.isEmpty then some minutes else none
        let offset : Int := 60 * hours + minutes
        return some (if sign == '-' then -offset else offset)
      else none

/-- What stands between a date and a time: the letter T or blanks. -/
def afterDate? (cs : List Char) : Option (List Char) :=
  match cs with
  | c :: rest =>
      if c == 'T' || c == 't' then some rest
      else if isBlank c then some (rest.dropWhile isBlank)
      else none
  | [] => none

/-- A time with what follows it, up to the end of the text. -/
def timeParts? (cs : List Char) : Option (Nat × Nat × Nat × Nat × Option Int) := do
  let (hour, cs) ← oneOrTwoDigits (← afterDate? cs)
  let (minute, cs) ← digitsExactly 2 (← afterChar ':' cs)
  let (second, cs) ← digitsExactly 2 (← afterChar ':' cs)
  let (fraction, cs) := match cs with
    | '.' :: rest => (rest.takeWhile Char.isDigit, rest.dropWhile Char.isDigit)
    | cs => ([], cs)
  let offset ← offsetParts? cs
  return (hour, minute, second, microseconds fraction, offset)

/-- The parts of the timestamp a text writes. -/
def timestampParts? (cs : List Char) : Option TimestampParts := do
  let (year, cs) ← digitsExactly 4 cs
  let (month, cs) ← oneOrTwoDigits (← afterChar '-' cs)
  let (day, cs) ← oneOrTwoDigits (← afterChar '-' cs)
  if cs.isEmpty then return ⟨year, month, day, none⟩
  else return ⟨year, month, day, some (← timeParts? cs)⟩

/-- Whether a plain text is a timestamp without being tagged as one: a day alone must then have two
digits for its month and two for its day. -/
def isTimestamp (cs : List Char) : Bool :=
  match timestampParts? cs with
  | none => false
  | some parts => parts.time.isSome || cs.length == 10

/-- A calendar error as the fault of a document. -/
def calendar {α : Type} : Except CalendarError α → Except Fault α
  | .ok a => .ok a
  | .error cause => .error (.calendar cause)

/-- The date or moment with the given parts. -/
def TimestampParts.toValue (parts : TimestampParts) : Except Fault Value := do
  match parts.time with
  | none => return .date (← calendar (Date.make parts.year parts.month parts.day))
  | some (hour, minute, second, microsecond, offset) =>
      let offset ← match offset with
        | none => pure none
        | some minutes => some <$> calendar (Offset.make (60 * minutes))
      let date ← calendar (Date.make parts.year parts.month parts.day)
      let clock ← calendar (Clock.make hour minute second microsecond)
      return .moment ⟨date, clock, offset⟩

end DepthRules.Yaml
