import BuildSpec.Calendar
import BuildSpec.Number.Length
import BuildSpec.Text.Quoted

/-!
# What can be wrong with a document

A document that breaks the grammar, names an unknown anchor or tag, or puts a container where a
scalar belongs is malformed; whoever reads it has words of its own for what is wrong in particular.
A scalar whose tag promises more than its text can keep is reported in its own words, and so is a
document whose elements have no end of places.
-/

namespace BuildSpec.Yaml

/-- The causes for which a document cannot be read. -/
inductive Fault where
  /-- The document breaks the grammar or the rules for its nodes. -/
  | malformed
  /-- An escape names a number that is no character. -/
  | codePoint (code : Nat)
  /-- The text of a whole number has other characters than the digits of its base. -/
  | integer (base : Nat) (digits : String)
  /-- The text of a floating-point number is none. -/
  | number (digits : String)
  /-- The text of a number is empty but for a sign. -/
  | noDigits
  /-- The text of a truth value is none of the words for one. -/
  | truthValue (word : String)
  /-- The text of a day or moment does not have the form of one. -/
  | timestamp
  /-- A day or moment is given by a mapping with a default. -/
  | timestampInMapping
  /-- A day or moment has a part that is out of range. -/
  | calendar (cause : CalendarFault)
  /-- A whole number has too many digits to be read. -/
  | tooLong (fault : Number.LengthFault)
  /-- A floating-point number in base sixty has so many digits that the first one counts more than
  any floating-point number. -/
  | weight
  /-- The default of a mapping leads back to the mapping. -/
  | endless
  /-- A collection is an item or a value inside itself, so that there is a place below every place
  of its parts. -/
  | bottomless
  deriving DecidableEq, Repr

/-- How a reader of documents tells what is wrong with a malformed text. -/
abbrev Wording := String → String

/-- The words for a cause; `reason` tells what is wrong with a malformed document. -/
def Fault.message (reason : String) : Fault → String
  | .malformed => reason
  | .codePoint code =>
    if code < 0x80000000 then "chr() arg not in range(0x110000)"
    else "Python int too large to convert to C int"
  | .integer base digits =>
    "invalid literal for int() with base " ++ toString base ++ ": "
      ++ String.ofList ((Text.quotedChars digits.toList).take 200)
  | .number digits => "could not convert string to float: " ++ Text.quoted digits
  | .noDigits => "string index out of range"
  | .truthValue word => Text.quoted word
  | .timestamp => "'NoneType' object has no attribute 'groupdict'"
  | .timestampInMapping => "expected string or bytes-like object, got 'list'"
  | .calendar cause => cause.message
  | .tooLong fault => fault.message
  | .weight => "int too large to convert to float"
  | .endless => "maximum recursion depth exceeded"
  | .bottomless => "maximum recursion depth exceeded while calling a Python object"

end BuildSpec.Yaml
