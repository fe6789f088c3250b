import BuildSpec.Text.Blank
import BuildSpec.Text.Digit
import BuildSpec.Text.Search
import BuildSpec.Value.Text

/-!
# Versions

A version has two or three numbers between points; the third is zero if it is left out.  In a spec
it must be a text, since a number would have lost its trailing zeros.  A spec may declare the
oldest version of this tool that understands it; the tool then refuses the spec if it is older.
Numbers of too many digits are a case of their own: the tool then gives no verdict.
-/

namespace BuildSpec

/-- A version of the tool. -/
structure Version where
  major : Nat
  minor : Nat
  patch : Nat
  deriving DecidableEq, Repr, Inhabited

namespace Version

/-- The first number that differs decides. -/
instance : LT Version where
  lt a b := a.major < b.major ∨ (a.major = b.major ∧
    (a.minor < b.minor ∨ (a.minor = b.minor ∧ a.patch < b.patch)))

/-- At most as new: older or the same. -/
instance : LE Version where
  le a b := a < b ∨ a = b

instance (a b : Version) : Decidable (a < b) :=
  inferInstanceAs (Decidable (a.major < b.major ∨ (a.major = b.major ∧
    (a.minor < b.minor ∨ (a.minor = b.minor ∧ a.patch < b.patch)))))

instance (a b : Version) : Decidable (a ≤ b) := inferInstanceAs (Decidable (a < b ∨ a = b))

/-- The three numbers between points. -/
def text (v : Version) : String :=
  toString v.major ++ "." ++ toString v.minor ++ "." ++ toString v.patch

/-- A numeral of a version: digits of any script. -/
def isNumeral (s : List Char) : Bool := !s.isEmpty && s.all Text.isDigit

/-- The two or three numerals of a version, with or without a `v` in front and blanks around
it. -/
def numerals? (s : List Char) : Option (List Char × List Char × Option (List Char)) :=
  let rest := match Text.trimBlanks s with
    | 'v' :: rest => rest
    | rest => rest
  let numerals := Text.splitAt '.' rest
  if !numerals.all isNumeral then none
  else match numerals with
    | [major, minor] => some (major, minor, none)
    | [major, minor, patch] => some (major, minor, some patch)
    | _ => none

/-- The number that a numeral denotes, unless it has too many digits. -/
def number (numeral : List Char) : Except Number.LengthFault Nat :=
  if Number.maxDigits < numeral.length then .error (.reading numeral.length)
  else .ok (Text.digitsValue numeral)

/-- Why a value is no version. -/
inductive Fault where
  /-- A number, which has the text `shown`. -/
  | number (shown : String)
  /-- A value of another kind than a text. -/
  | notText (kind shown : String)
  | malformed (raw : String)
  | tooLong (fault : Number.LengthFault)
  deriving DecidableEq, Repr

/-- The words for a value that is no version. -/
def Fault.message : Fault → String
  | .number shown =>
    "Version must be a quoted string, got number " ++ shown
      ++ ". Quote it (e.g. minimumVersion: \"0.10.0\") so YAML keeps it as text."
  | .notText kind shown => "Version must be a string, got " ++ kind ++ ": " ++ shown
  | .malformed raw =>
    "Invalid version string: '" ++ raw ++ "'. Expected 'MAJOR.MINOR.PATCH' (e.g. '0.2.0')."
  | .tooLong fault => fault.message

/-- Reads a version out of a text. -/
def ofText (raw : String) : Except Fault Version :=
  match numerals? raw.toList with
  | none => .error (.malformed raw)
  | some (major, minor, patch) => do
    let major ← (number major).mapError .tooLong
    let minor ← (number minor).mapError .tooLong
    let patch ← (number (patch.getD ['0'])).mapError .tooLong
    return ⟨major, minor, patch⟩

/-- The fault of a value that is no text. -/
def faultOf (v : Value) : Fault :=
  match v.writeShown with
  | .error fault => .tooLong fault
  | .ok shown =>
    match v with
    | .int _ | .float _ => .number shown
    | v => .notText v.kindName shown

/-- Reads a version out of a value, which must be a text. -/
def ofValue : Value → Except Fault Version
  | .text raw => ofText raw
  | v => .error (faultOf v)

/-- The version of this tool. -/
def tool : Version := ⟨0, 3, 0⟩

/-- What a declared version means for a tool. -/
inductive Verdict where
  | undeclared
  | unreadable (fault : Fault)
  | tooOld (required : Version)
  | satisfied (required : Version)

namespace Verdict

/-- Whether the tool may go on. -/
def isCompatible : Verdict → Bool
  | undeclared | satisfied _ => true
  | unreadable _ | tooOld _ => false

/-- The version that is required, if one is. -/
def required? : Verdict → Option Version
  | tooOld required | satisfied required => some required
  | undeclared | unreadable _ => none

/-- The words for what a declared version means. -/
def message (tool : Version) : Verdict → String
  | undeclared => "No minimum version declared."
  | unreadable fault => fault.message
  | tooOld required =>
    "Spec requires project_spec_designer " ++ required.text ++ " or newer but this is version "
      ++ tool.text ++ "."
  | satisfied required =>
    "Version " ++ tool.text ++ " satisfies minimum version " ++ required.text ++ "."

end Verdict

/-- Whether a tool may read a spec that declares a version.  There is no verdict on numbers of too
many digits. -/
def check (tool : Version) : Value → Except Number.LengthFault Verdict
  | .null => .ok .undeclared
  | raw =>
    match ofValue raw with
    | .error (.tooLong fault) => .error fault
    | .error fault => .ok (.unreadable fault)
    | .ok required => .ok (if tool < required then .tooOld required else .satisfied required)

end Version

end BuildSpec
