/-!
# The shortest decimal of a binary fraction

A positive number `m * 2 ^ q` of finite precision stands for every real number that is rounded to
it.  Its shortest decimal is the one with the fewest digits among those, and of two with equally
many digits the nearer one.

The search runs over the grids of one digit, two digits and so on.  If any point of a grid lies in
the interval, one of the two neighbours of the number on that grid does; so the first grid of which
a neighbour lies in the interval gives the answer, and seventeen digits always suffice for a
mantissa of 53 bits.
-/

namespace BuildSpec.Number

/-- A positive number `mantissa * 2 ^ exponent` and the reals that are rounded to it.  The gap
below is half the gap above where the mantissa has just been doubled (`narrow`); the ends of the
interval belong to it if the mantissa is even. -/
structure Binary where
  mantissa : Nat
  exponent : Int
  narrow : Bool
  deriving DecidableEq, Repr

/-- A decimal `digits * 10 ^ exponent`. -/
structure Decimal where
  digits : Nat
  exponent : Int
  deriving DecidableEq, Repr

namespace Binary

/-- Four times the mantissa: the interval's ends are whole in units of `2 ^ (exponent - 2)`. -/
def scaled (x : Binary) : Nat := 4 * x.mantissa

/-- The interval's lower end in units of `2 ^ (exponent - 2)`. -/
def low (x : Binary) : Nat := x.scaled - (if x.narrow then 1 else 2)

/-- The interval's upper end in units of `2 ^ (exponent - 2)`. -/
def high (x : Binary) : Nat := x.scaled + 2

/-- Clears the denominators of `c * 10 ^ p` and of `n` units: the first of the two whole numbers to
be compared. -/
def decimalSide (x : Binary) (p : Int) (c : Nat) : Nat :=
  c * Nat.pow 10 p.toNat * Nat.pow 2 (2 - x.exponent).toNat

/-- The second of the two whole numbers to be compared. -/
def binarySide (x : Binary) (p : Int) (n : Nat) : Nat :=
  n * Nat.pow 2 (x.exponent - 2).toNat * Nat.pow 10 (-p).toNat

/-- Whether `c * 10 ^ p` is rounded to the number. -/
def holds (x : Binary) (p : Int) (c : Nat) : Bool :=
  let d := x.decimalSide p c
  if x.mantissa % 2 = 0 then x.binarySide p x.low ≤ d && d ≤ x.binarySide p x.high
  else x.binarySide p x.low < d && d < x.binarySide p x.high

/-- The number of decimal digits before the point, less one; negative for a number below one. -/
def decimalExponent (x : Binary) : Int :=
  let num := x.mantissa * Nat.pow 2 x.exponent.toNat
  let den := Nat.pow 2 (-x.exponent).toNat
  let guess : Int := (Nat.toDigits 10 num).length - (Nat.toDigits 10 den).length
  if den * Nat.pow 10 guess.toNat ≤ num * Nat.pow 10 (-guess).toNat then guess else guess - 1

/-- The nearest decimal with the given number of digits that is rounded to the number. -/
def onGrid? (x : Binary) (count : Nat) : Option Decimal :=
  let p := x.decimalExponent - count + 1
  let c := x.binarySide p x.scaled / x.decimalSide p 1
  let nearer :=
    let twice := x.binarySide p (2 * x.scaled)
    let middle := x.decimalSide p (2 * c + 1)
    if twice < middle ∨ (twice = middle ∧ c % 2 = 0) then c else c + 1
  match x.holds p c, x.holds p (c + 1) with
  | true, true => some ⟨nearer, p⟩
  | true, false => some ⟨c, p⟩
  | false, true => some ⟨c + 1, p⟩
  | false, false => none

/-- The shortest decimal that is rounded to the number. -/
def shortest (x : Binary) : Decimal :=
  ((List.range 17).findSome? fun i => x.onGrid? (i + 1)).getD ⟨0, 0⟩

end Binary

end BuildSpec.Number
