/-!
# Days and moments

A day of the proleptic Gregorian calendar, and a moment: a day with a time of day and, if it is
known, the distance from universal time.  Two moments with known distances are the same if they
are the same instant; a moment without one equals no moment with one.
-/

namespace BuildSpec

/-- A day, from year 1 to year 9999. -/
structure Day where
  year : Nat
  month : Nat
  day : Nat
  deriving DecidableEq, Repr, Inhabited

/-- A moment to the microsecond; `offset` is in seconds east of universal time. -/
structure Moment where
  date : Day
  hour : Nat
  minute : Nat
  second : Nat
  microsecond : Nat
  offset : Option Int
  deriving DecidableEq, Repr, Inhabited

/-- The part of a day or a moment that is out of range. -/
inductive CalendarFault where
  | year (value : Nat)
  | month
  | day
  | hour
  | minute
  | second
  | offset (seconds : Int)
  deriving DecidableEq, Repr

/-- A number in base ten, filled up with zeros to a width. -/
def padded (width n : Nat) : String :=
  String.ofList ((Nat.toDigits 10 n).leftpad width '0')

/-- A span of time by its whole days and the seconds that remain; parts that are zero are left
out. -/
def spanText (seconds : Int) : String :=
  let days := seconds / 86400
  let rest := seconds % 86400
  let fields :=
    (if days = 0 then [] else ["days=" ++ toString days])
      ++ (if rest = 0 then [] else ["seconds=" ++ toString rest])
  "datetime.timedelta(" ++ (if fields.isEmpty then "0" else ", ".intercalate fields) ++ ")"

/-- The words for a part out of range. -/
def CalendarFault.message : CalendarFault → String
  | .year y => "year " ++ toString y ++ " is out of range"
  | .month => "month must be in 1..12"
  | .day => "day is out of range for month"
  | .hour => "hour must be in 0..23"
  | .minute => "minute must be in 0..59"
  | .second => "second must be in 0..59"
  | .offset s =>
    "offset must be a timedelta strictly between -timedelta(hours=24) and timedelta(hours=24), not "
      ++ spanText s ++ "."

namespace Day

/-- A year with a leap day. -/
def isLeap (year : Nat) : Bool :=
  year % 4 = 0 && (year % 100 != 0 || year % 400 = 0)

/-- The number of days of a month. -/
def daysInMonth (year month : Nat) : Nat :=
  match month with
  | 2 => if isLeap year then 29 else 28
  | 4 | 6 | 9 | 11 => 30
  | _ => 31

/-- The day with the given parts, the year being checked first and the day last. -/
def make (year month day : Nat) : Except CalendarFault Day :=
  if year = 0 ∨ 9999 < year then .error (.year year)
  else if month = 0 ∨ 12 < month then .error .month
  else if day = 0 ∨ daysInMonth year month < day then .error .day
  else .ok ⟨year, month, day⟩

/-- The number of days from the first day of year 1. -/
def number (d : Day) : Nat :=
  let y := d.year - 1
  let months := (List.range (d.month - 1)).foldl (fun n m => n + daysInMonth d.year (m + 1)) 0
  365 * y + y / 4 - y / 100 + y / 400 + months + d.day - 1

/-- The day as year, month and day between hyphens. -/
def text (d : Day) : String :=
  padded 4 d.year ++ "-" ++ padded 2 d.month ++ "-" ++ padded 2 d.day

end Day

namespace Moment

/-- The moment with the given parts, checked from the year down to the second. -/
def make (year month day hour minute second microsecond : Nat) (offset : Option Int) :
    Except CalendarFault Moment := do
  let date ← Day.make year month day
  if 23 < hour then throw .hour
  if 59 < minute then throw .minute
  if 59 < second then throw .second
  return ⟨date, hour, minute, second, microsecond, offset⟩

/-- A distance from universal time is less than a day. -/
def checkOffset (seconds : Int) : Except CalendarFault Int :=
  if seconds.natAbs < 86400 then .ok seconds else .error (.offset seconds)

/-- The microseconds from the start of year 1, by the moment's own clock. -/
def localMicroseconds (m : Moment) : Int :=
  (((m.date.number * 24 + m.hour) * 60 + m.minute) * 60 + m.second : Nat) * 1000000
    + m.microsecond

/-- Whether two moments are the same. -/
def same (a b : Moment) : Bool :=
  match a.offset, b.offset with
  | none, none => a.localMicroseconds == b.localMicroseconds
  | some x, some y =>
    a.localMicroseconds - x * 1000000 == b.localMicroseconds - y * 1000000
  | _, _ => false

/-- A distance from universal time with its sign, hours and minutes, and seconds if there are
any. -/
def offsetText (seconds : Int) : String :=
  let size := seconds.natAbs
  let rest := if size % 60 = 0 then "" else ":" ++ padded 2 (size % 60)
  (if seconds < 0 then "-" else "+") ++ padded 2 (size / 3600) ++ ":" ++ padded 2 (size / 60 % 60)
    ++ rest

/-- The moment as day and time of day, with a separator between them; a fraction is written only
if it is not zero. -/
def text (separator : String) (m : Moment) : String :=
  let fraction := if m.microsecond = 0 then "" else "." ++ padded 6 m.microsecond
  m.date.text ++ separator ++ padded 2 m.hour ++ ":" ++ padded 2 m.minute ++ ":"
    ++ padded 2 m.second ++ fraction ++ (m.offset.map offsetText).getD ""

end Moment

end BuildSpec
