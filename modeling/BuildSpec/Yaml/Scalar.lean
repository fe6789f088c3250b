import BuildSpec.Number.Read
import BuildSpec.Text.Case
import BuildSpec.Yaml.Base64
import BuildSpec.Yaml.Fault
import BuildSpec.Yaml.Tag

/-!
# The values of scalars

What a scalar's text stands for under a tag.  A tag that is written out may promise more than the
text can keep; then the fault is told in the words of the rule that the text breaks.
-/

namespace BuildSpec.Yaml

/-- A text without underscores. -/
def dropUnderscores (s : List Char) : List Char := s.filter (· ≠ '_')

/-- The words for truth values, in lower case. -/
def truthValues : List (String × Bool) :=
  [("yes", true), ("no", false), ("true", true), ("false", false), ("on", true), ("off", false)]

/-- A truth value. -/
def readTruth (text : String) : Except Fault Value :=
  let word := Text.lower text
  match truthValues.lookup word with
  | some b => .ok (.bool b)
  | none => .error (.truthValue word)

/-- A whole number in a base, or the fault of its text. -/
def integerIn (base : Nat) (digits : List Char) : Except Fault Int :=
  (Number.readInteger base digits).mapError fun
    | .notDigits => .integer base (String.ofList digits)
    | .tooLong fault => .tooLong fault

/-- Numbers separated by colons are the digits of a number in base sixty. -/
def sexagesimal (digits : List Int) : Int := digits.foldl (fun n d => 60 * n + d) 0

/-- A whole number. -/
def readInteger (text : String) : Except Fault Value := do
  let s := dropUnderscores text.toList
  if s.isEmpty then throw .noDigits
  let (negative, size) := Number.splitSign s
  let n ← match size with
    | [] => throw .noDigits
    | ['0'] => pure 0
    | '0' :: 'b' :: digits => integerIn 2 digits
    | '0' :: 'x' :: digits => integerIn 16 digits
    | '0' :: _ => integerIn 8 size
    | _ =>
      if size.contains ':' then
        sexagesimal <$> (Text.splitAt ':' size).mapM (integerIn 10)
      else integerIn 10 size
  return .int (if negative then -n else n)

/-- A floating-point number, or the fault of its text. -/
def floatOf (digits : List Char) : Except Fault Float :=
  match Number.readFloat? digits with
  | some x => .ok x
  | none => .error (.number (String.ofList digits))

/-- The sum of floating-point numbers, the first of which counts `weight` times and each other
sixty times as much as the one before.  A weight must be a floating-point number too. -/
def weightedSum : (weight : Nat) → (sum : Float) → List Float → Except Fault Float
  | _, sum, [] => .ok sum
  | weight, sum, d :: rest =>
    if (Float.ofNat weight).isInf then .error .weight
    else weightedSum (60 * weight) (sum + d * Float.ofNat weight) rest

/-- Numbers separated by colons, the last of which counts once and each other sixty times as much
as the next one.  The last one is added first. -/
def sexagesimalFloat (digits : List Float) : Except Fault Float :=
  weightedSum 1 0.0 digits.reverse

/-- The sign of a floating-point number and what follows it, in lower case and without
underscores. -/
def floatParts (text : String) : Bool × List Char :=
  Number.splitSign (Text.lower (String.ofList (dropUnderscores text.toList))).toList

/-- The word for no number at all.  It stands for one and the same value wherever it is written,
while a number in general notation that turns out to be none is a value of its own. -/
def notANumberWord : List Char := ['.', 'n', 'a', 'n']

/-- A floating-point number. -/
def readFloat (text : String) : Except Fault Value := do
  if (dropUnderscores text.toList).isEmpty then throw .noDigits
  let (negative, size) := floatParts text
  let x ←
    if size = ['.', 'i', 'n', 'f'] then pure (1.0 / 0.0)
    else if size = notANumberWord then pure (0.0 / 0.0)
    else if size.contains ':' then (Text.splitAt ':' size).mapM floatOf >>= sexagesimalFloat
    else floatOf size
  return .float (if negative then -x else x)

/-- A day or a moment; one line feed at the end does not count. -/
def readTimestamp (text : String) : Except Fault Value := do
  let chars := text.toList
  let word := if chars.getLast? = some '\n' then chars.dropLast else chars
  match Timestamp.parse? word with
  | none => throw .timestamp
  | some t => t.value.mapError .calendar

/-- The value of a scalar's text under a tag.  Tags of containers, of merges and of defaults, and
unknown ones, have no scalars. -/
def scalarValue (tag : Tag) (text : String) : Except Fault Value :=
  match tag with
  | .null => .ok .null
  | .bool => readTruth text
  | .int => readInteger text
  | .float => readFloat text
  | .str => .ok (.text text)
  | .timestamp => readTimestamp text
  | .binary =>
    match Base64.decode? text.toList with
    | some bytes => .ok (.bytes bytes)
    | none => .error .malformed
  | _ => .error .malformed

end BuildSpec.Yaml
