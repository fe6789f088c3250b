/-!
# The length of whole numbers

In base ten, whole numbers are read and written only up to a number of digits.  Longer ones can
still arise, since a base that is a power of two has no such bound.
-/

namespace BuildSpec.Number

/-- The greatest number of decimal digits that a whole number is read from or written with. -/
def maxDigits : Nat := 4300

/-- A whole number that is too long for base ten. -/
inductive LengthFault where
  /-- A text is not read, for it has too many digits. -/
  | reading (digits : Nat)
  /-- A number is not written, for it would take too many digits. -/
  | writing
  deriving DecidableEq, Repr

/-- The words for a whole number that is too long. -/
def LengthFault.message (fault : LengthFault) : String :=
  let length := match fault with
    | reading digits => ": value has " ++ toString digits ++ " digits"
    | writing => ""
  "Exceeds the limit (" ++ toString maxDigits ++ " digits) for integer string conversion" ++ length
    ++ "; use sys.set_int_max_str_digits() to increase the limit"

/-- Whether a whole number is short enough to be written. -/
def isWritable (n : Int) : Bool := n.natAbs < Nat.pow 10 maxDigits

end BuildSpec.Number
