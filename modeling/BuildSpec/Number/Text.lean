import BuildSpec.Number.Shortest

/-!
# Numbers as text

A whole number is written in base ten.  A floating-point number is written with the fewest digits
that read back as the same number, always with a point or an exponent, so that it cannot be taken
for a whole number.
-/

namespace BuildSpec.Number

/-- How floating-point numbers are laid out. -/
structure Layout where
  /-- The least decimal exponent that is written positionally. -/
  lowest : Int
  /-- The greatest decimal exponent that is written positionally. -/
  highest : Int
  /-- The least number of digits of a written exponent. -/
  exponentWidth : Nat

/-- Numbers from `0.0001` up to, but not including, `1e+16` are positional; an exponent has a sign
and at least two digits. -/
def Layout.standard : Layout := ⟨-4, 15, 2⟩

/-- The parts of a finite number: whether it is negative, and its size unless that is zero. -/
def finiteParts (x : Float) : Bool × Option Binary :=
  let bits : Nat := x.toBits.toNat
  let fraction : Nat := bits % 0x10000000000000
  let field : Nat := bits / 0x10000000000000 % 0x800
  let size : Option Binary :=
    if field = 0 then
      if fraction = 0 then none else some ⟨fraction, -1074, false⟩
    else some ⟨fraction + 0x10000000000000, Int.ofNat field - 1075, fraction = 0 && field != 1⟩
  (0x8000000000000000 ≤ bits, size)

/-- The digits of a decimal without trailing zeros, and the exponent of the first of them. -/
def leadingDigits (d : Decimal) : List Char × Int :=
  let digits := Nat.toDigits 10 d.digits
  ((digits.reverse.dropWhile (· = '0')).reverse, d.exponent + digits.length - 1)

/-- Digits with the point after the first `count` of them, filled up with zeros. -/
def withPoint (digits : List Char) (count : Nat) : List Char :=
  let whole := (digits.take count).rightpad count '0'
  let rest := digits.drop count
  whole ++ '.' :: (if rest.isEmpty then ['0'] else rest)

/-- A decimal under a layout. -/
def Layout.write (layout : Layout) (d : Decimal) : String :=
  let (digits, e) := leadingDigits d
  String.ofList <|
    if e < layout.lowest ∨ layout.highest < e then
      let mantissa := match digits with
        | [] => []
        | [c] => [c]
        | c :: rest => c :: '.' :: rest
      let size := (Nat.toDigits 10 e.natAbs).leftpad layout.exponentWidth '0'
      mantissa ++ 'e' :: (if e < 0 then '-' else '+') :: size
    else if 0 ≤ e then withPoint digits (e.toNat + 1)
    else '0' :: '.' :: (List.replicate (-e - 1).toNat '0' ++ digits)

/-- A floating-point number as text. -/
def floatText (x : Float) : String :=
  if x.isNaN then "nan"
  else
    let (negative, size) := finiteParts x
    let sign := if negative then "-" else ""
    if x.isInf then sign ++ "inf"
    else match size with
      | none => sign ++ "0.0"
      | some b => sign ++ Layout.standard.write b.shortest

end BuildSpec.Number
