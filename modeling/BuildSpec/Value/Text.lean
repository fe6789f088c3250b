import BuildSpec.Value.Basic
import BuildSpec.Number.Length
import BuildSpec.Number.Text
import BuildSpec.Text.Quoted

/-!
# Values as text

A value in a message is written in two ways.  `shown` is the form inside a list or next to other
words, with texts between quotes; `plain` is the form that stands for the value itself: a text as
it is, a day or a moment as one reads it, and everything else as shown.  A value that holds a whole
number of too many digits is not written at all.
-/

namespace BuildSpec

/-- A moment by its parts; seconds and microseconds are written only if they or a later part are
not zero. -/
def Moment.shown (m : Moment) : String :=
  let fraction :=
    if m.microsecond ≠ 0 then [m.second, m.microsecond]
    else if m.second ≠ 0 then [m.second]
    else []
  let fields := [m.date.year, m.date.month, m.date.day, m.hour, m.minute] ++ fraction
  let zone := match m.offset with
    | none => ""
    | some 0 => ", tzinfo=datetime.timezone.utc"
    | some s => ", tzinfo=datetime.timezone(" ++ spanText s ++ ")"
  "datetime.datetime(" ++ ", ".intercalate (fields.map toString) ++ zone ++ ")"

/-- A day by its parts. -/
def Day.shown (d : Day) : String :=
  "datetime.date(" ++ ", ".intercalate ([d.year, d.month, d.day].map toString) ++ ")"

namespace Value

mutual

/-- A value as it is written inside a list or between other words. -/
def shown : Value → String
  | null => "None"
  | bool true => "True"
  | bool false => "False"
  | int n => toString n
  | float x => Number.floatText x
  | text s => Text.quoted s
  | bytes b => Text.quotedBytes b
  | day d => d.shown
  | moment m => m.shown
  | list items => "[" ++ ", ".intercalate (shownItems items) ++ "]"
  | tuple [item] => "(" ++ item.shown ++ ",)"
  | tuple items => "(" ++ ", ".intercalate (shownItems items) ++ ")"
  | set [] => "set()"
  | set items => "\x7b" ++ ", ".intercalate (shownItems items) ++ "\x7d"
  | map entries => "\x7b" ++ ", ".intercalate (shownEntries entries) ++ "\x7d"
  | enclosing => "..."

/-- The items of a sequence as text. -/
def shownItems : List Value → List String
  | [] => []
  | item :: rest => item.shown :: shownItems rest

/-- The entries of a mapping as text. -/
def shownEntries : List (Value × Value) → List String
  | [] => []
  | (key, value) :: rest => (key.shown ++ ": " ++ value.shown) :: shownEntries rest

end

/-- A value as the text that stands for it. -/
def plain : Value → String
  | text s => s
  | day d => d.text
  | moment m => m.text " "
  | v => v.shown

mutual

/-- Whether every whole number in a value is short enough to be written. -/
def isWritable : Value → Bool
  | int n => Number.isWritable n
  | list items | tuple items | set items => areWritable items
  | map entries => entriesWritable entries
  | _ => true

/-- Whether all values of a row can be written. -/
def areWritable : List Value → Bool
  | [] => true
  | item :: rest => item.isWritable && areWritable rest

/-- Whether all entries of a mapping can be written. -/
def entriesWritable : List (Value × Value) → Bool
  | [] => true
  | (key, value) :: rest => key.isWritable && value.isWritable && entriesWritable rest

end

/-- Writes a value inside a list or between other words. -/
def writeShown (v : Value) : Except Number.LengthFault String :=
  if v.isWritable then .ok v.shown else .error .writing

/-- Writes a value as the text that stands for it. -/
def writePlain (v : Value) : Except Number.LengthFault String :=
  if v.isWritable then .ok v.plain else .error .writing

end Value

end BuildSpec
