import BuildSpec.Calendar
import BuildSpec.Value.Basic

/-!
# Days and moments in a document

A day is four, two and two digits between hyphens.  A moment adds a time of day behind a `T` or
spaces, possibly with a fraction of a second and a distance from universal time; its month and day
may have one digit only.
-/

namespace BuildSpec.Yaml

/-- The parts of a day or moment as they are written. -/
structure Timestamp where
  year : List Char
  month : List Char
  day : List Char
  /-- Hour, minute, second, and the digits behind the point. -/
  time : Option (List Char × List Char × List Char × List Char)
  /-- The distance from universal time: whether it is negative, hours and minutes. -/
  zone : Option (Bool × List Char × List Char)

/-- At least `least` and at most `most` digits, and the rest. -/
def digits? (least most : Nat) (s : List Char) : Option (List Char × List Char) :=
  let found := (s.take most).takeWhile Char.isDigit
  if least ≤ found.length then some (found, s.drop found.length) else none

/-- The rest behind a character. -/
def expect? (c : Char) : List Char → Option (List Char)
  | x :: rest => if x = c then some rest else none
  | [] => none

/-- The rest behind the gap between a day and a time. -/
def timeGap? (s : List Char) : Option (List Char) :=
  match s with
  | 'T' :: rest | 't' :: rest => some rest
  | _ =>
    let rest := s.dropWhile fun c => c = ' ' || c = '\t'
    if rest.length < s.length then some rest else none

/-- Hours and possibly minutes, up to the end. -/
def zoneHours? (s : List Char) : Option (List Char × List Char) := do
  let (hours, s) ← digits? 1 2 s
  match s with
  | [] => some (hours, [])
  | _ =>
    let (minutes, s) ← digits? 2 2 (← expect? ':' s)
    if s.isEmpty then some (hours, minutes) else none

/-- A distance from universal time, up to the end; `Z` stands for none. -/
def zone? (s : List Char) : Option (Option (Bool × List Char × List Char)) :=
  match s.dropWhile fun c => c = ' ' || c = '\t' with
  | [] => if s.isEmpty then some none else none
  | ['Z'] => some (some (false, [], []))
  | '-' :: rest => (zoneHours? rest).map fun (h, m) => some (true, h, m)
  | '+' :: rest => (zoneHours? rest).map fun (h, m) => some (false, h, m)
  | _ => none

/-- The parts of a day or moment. -/
def Timestamp.parse? (s : List Char) : Option Timestamp := do
  let (year, s) ← digits? 4 4 s
  let (month, s) ← digits? 1 2 (← expect? '-' s)
  let (day, s) ← digits? 1 2 (← expect? '-' s)
  if s.isEmpty then return ⟨year, month, day, none, none⟩
  let (hour, s) ← digits? 1 2 (← timeGap? s)
  let (minute, s) ← digits? 2 2 (← expect? ':' s)
  let (second, s) ← digits? 2 2 (← expect? ':' s)
  let (fraction, s) := match s with
    | '.' :: rest => (rest.takeWhile Char.isDigit, rest.dropWhile Char.isDigit)
    | s => ([], s)
  return ⟨year, month, day, some (hour, minute, second, fraction), ← zone? s⟩

/-- Whether a text without a tag reads as a day or moment: a day alone needs all its digits. -/
def readsAsTimestamp (s : List Char) : Bool :=
  match Timestamp.parse? s with
  | some t => t.time.isSome || (t.month.length = 2 && t.day.length = 2)
  | none => false

/-- The number that ASCII digits denote. -/
def decimalValue (s : List Char) : Nat :=
  s.foldl (fun n d => 10 * n + (d.toNat - '0'.toNat)) 0

/-- The day or moment that the parts denote. -/
def Timestamp.value (t : Timestamp) : Except CalendarFault Value := do
  let year := decimalValue t.year
  let month := decimalValue t.month
  let day := decimalValue t.day
  match t.time with
  | none => return .day (← Day.make year month day)
  | some (hour, minute, second, fraction) =>
    let offset ← match t.zone with
      | none => pure none
      | some (negative, hours, minutes) => do
        let size : Int := (decimalValue hours * 60 + decimalValue minutes) * 60
        some <$> Moment.checkOffset (if negative then -size else size)
    let micro := decimalValue ((fraction.take 6).rightpad 6 '0')
    return .moment (← Moment.make year month day (decimalValue hour) (decimalValue minute)
      (decimalValue second) micro offset)

end BuildSpec.Yaml
