/-!
# Dates and times of day

Dates of the proleptic calendar, times of day to the microsecond, and offsets from universal time.
`Date.make`, `Clock.make` and `Offset.make` admit exactly the values that exist and say what is
wrong with the others.
-/

namespace DepthRules.Value

/-- What is wrong with a date, a time or an offset. -/
inductive CalendarError where
  | year (year : Nat)
  | month
  | day
  | hour
  | minute
  | second
  | offset (seconds : Int)
  deriving DecidableEq, Repr

/-- A day of the calendar. -/
structure Date where
  year : Nat
  month : Nat
  day : Nat
  deriving DecidableEq, Repr

/-- A time of day. -/
structure Clock where
  hour : Nat
  minute : Nat
  second : Nat
  microsecond : Nat
  deriving DecidableEq, Repr

/-- A moment: a day, a time, and the offset from universal time in seconds if it is known. -/
structure Moment where
  date : Date
  clock : Clock
  offset : Option Int
  deriving DecidableEq, Repr

/-- Leap years. -/
def isLeapYear (year : Nat) : Bool := year % 4 == 0 && (year % 100 != 0 || year % 400 == 0)

/-- The number of days before a year, counted from the first year. -/
def daysBeforeYear (year : Nat) : Nat :=
  let y := year - 1
  365 * y + y / 4 - y / 100 + y / 400

/-- The number of days of a month. -/
def daysInMonth (year month : Nat) : Nat :=
  if month = 2 then (if isLeapYear year then 29 else 28)
  else if month = 4 || month = 6 || month = 9 || month = 11 then 30
  else 31

/-- The number of a day, counted from the first day of the first year. -/
def Date.ordinal (d : Date) : Nat :=
  (List.range (d.month - 1)).foldl (fun days m => days + daysInMonth d.year (m + 1))
    (daysBeforeYear d.year + d.day)

/-- A moment in seconds since the day before the first, its offset taken off. -/
def Moment.instant (m : Moment) : Int :=
  (86400 * m.date.ordinal + 3600 * m.clock.hour + 60 * m.clock.minute + m.clock.second : Nat) -
    m.offset.getD 0

/-- Whether two moments are the same: the same time if both offsets are known, and otherwise the
same in all parts. -/
def Moment.isSame (m n : Moment) : Bool :=
  if m.offset.isSome && n.offset.isSome then
    m.instant == n.instant && m.clock.microsecond == n.clock.microsecond
  else m == n

/-- The day with this year, month and day of the month. -/
def Date.make (year month day : Nat) : Except CalendarError Date :=
  if year = 0 || 9999 < year then .error (.year year)
  else if month = 0 || 12 < month then .error .month
  else if day = 0 || daysInMonth year month < day then .error .day
  else .ok ⟨year, month, day⟩

/-- The time of day with this hour, minute, second and microsecond. -/
def Clock.make (hour minute second microsecond : Nat) : Except CalendarError Clock :=
  if 23 < hour then .error .hour
  else if 59 < minute then .error .minute
  else if 59 < second then .error .second
  else .ok ⟨hour, minute, second, microsecond⟩

/-- An offset of less than a day in either direction. -/
def Offset.make (seconds : Int) : Except CalendarError Int :=
  if seconds.natAbs < 86400 then .ok seconds else .error (.offset seconds)

end DepthRules.Value
