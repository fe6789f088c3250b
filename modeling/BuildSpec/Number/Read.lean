import BuildSpec.Number.Length
import BuildSpec.Text.Blank
import BuildSpec.Text.Digit

/-!
# Reading numbers

The general grammar of numbers: blanks around a number do not count, digits may be those of any
script, and a sign may stand before the digits.
-/

namespace BuildSpec.Number

open BuildSpec.Text

/-- The value of a digit, a letter counting from ten on. -/
def anyDigit? (c : Char) : Option Nat :=
  if 'a' ≤ c ∧ c ≤ 'z' then some (c.toNat - 'a'.toNat + 10)
  else if 'A' ≤ c ∧ c ≤ 'Z' then some (c.toNat - 'A'.toNat + 10)
  else digitValue? c

/-- The number that digits denote in a base, if there is one digit at least and all are digits of
that base. -/
def digitsIn? (base : Nat) (digits : List Char) : Option Nat :=
  if digits.isEmpty then none
  else digits.foldlM (fun n c =>
    match anyDigit? c with
    | some d => if d < base then some (base * n + d) else none
    | none => none) 0

/-- The sign in front of a number (`true` for a minus) and what follows. -/
def splitSign : List Char → Bool × List Char
  | '-' :: rest => (true, rest)
  | '+' :: rest => (false, rest)
  | s => (false, s)

/-- Drops the mark of a base, such as `0x`, from the digits of that base. -/
def dropBaseMark (base : Nat) : List Char → List Char
  | '0' :: mark :: rest =>
    let isMark : Bool := match base with
      | 2 => mark = 'b' || mark = 'B'
      | 8 => mark = 'o' || mark = 'O'
      | 16 => mark = 'x' || mark = 'X'
      | _ => false
    if isMark then rest else '0' :: mark :: rest
  | s => s

/-- Why a text is not read as a whole number. -/
inductive IntegerFault where
  | notDigits
  | tooLong (fault : LengthFault)
  deriving DecidableEq, Repr

/-- A base in which numbers of any length are read. -/
def isUnbounded (base : Nat) : Bool := [2, 4, 8, 16, 32].contains base

/-- The number of digits of a base that a text starts with. -/
def leadingCount (base : Nat) (digits : List Char) : Nat :=
  (digits.takeWhile fun c => ((anyDigit? c).map fun d => decide (d < base)).getD false).length

/-- The whole number that a text denotes in a base.  The length of the digits is looked at before
what follows them. -/
def readInteger (base : Nat) (s : List Char) : Except IntegerFault Int :=
  let (negative, size) := splitSign (trim isNumberBlank s)
  let digits := dropBaseMark base size
  let count := leadingCount base digits
  if !isUnbounded base && maxDigits < count then .error (.tooLong (.reading count))
  else match digitsIn? base digits with
    | some n => .ok (if negative then -(n : Int) else n)
    | none => .error .notDigits

/-- The floating-point number nearest to `digits * 10 ^ exponent`.  A size that is out of range is
found from the number of digits, before any large power is taken. -/
def nearestFloat (digits : Nat) (exponent : Int) : Float :=
  let size := exponent + (Nat.toDigits 10 digits).length
  if digits = 0 ∨ size < -330 then 0.0
  else if 310 < size then 1.0 / 0.0
  else if exponent < 0 then Float.ofScientific digits true (-exponent).toNat
  else Float.ofScientific digits false exponent.toNat

/-- The exponent that may end a number: a letter, an optional sign and digits. -/
def readExponent? : List Char → Option Int
  | [] => some 0
  | c :: rest =>
    if c = 'e' ∨ c = 'E' then
      let (negative, digits) := splitSign rest
      (digitsIn? 10 digits).map fun n => if negative then -(n : Int) else n
    else none

/-- An unsigned decimal number: digits with an optional point among or around them, and an optional
exponent. -/
def readDecimal? (s : List Char) : Option Float :=
  let whole := s.takeWhile isDigit
  let afterWhole := s.dropWhile isDigit
  let (fraction, tail) := match afterWhole with
    | '.' :: rest => (rest.takeWhile isDigit, rest.dropWhile isDigit)
    | rest => ([], rest)
  if whole.isEmpty && fraction.isEmpty then none
  else (readExponent? tail).map fun e =>
    nearestFloat (digitsValue (whole ++ fraction)) (e - fraction.length)

/-- The floating-point number that a text denotes: a decimal number, an infinity or no number, with
an optional sign. -/
def readFloat? (s : List Char) : Option Float :=
  let (negative, size) := splitSign (trim isNumberBlank s)
  let word := String.ofList (size.map Char.toLower)
  let magnitude :=
    if word = "inf" ∨ word = "infinity" then some (1.0 / 0.0)
    else if word = "nan" then some (0.0 / 0.0)
    else readDecimal? size
  magnitude.map fun x => if negative then -x else x

end BuildSpec.Number
