import BuildSpec.Value.Equal

/-!
# Sets

A set holds each of its items once.  The items are told in the order in which they were first
mentioned, but natural numbers that are small against their number are told in ascending order.
-/

namespace BuildSpec.Value

/-- The natural number that a value is equal to. -/
def natural? (v : Value) : Option Nat :=
  v.asNumber?.bind fun (n, k) =>
    let unit := Nat.pow 2 k
    if 0 ≤ n ∧ n.toNat % unit = 0 then some (n.toNat / unit) else none

/-- The least number that is not small in a set with a number of items: the least power of two
above twice that number, or eight for less than five items. -/
def smallBound (count : Nat) : Nat :=
  if count < 5 then 8 else Nat.pow 2 (Nat.log2 (2 * count) + 1)

/-- The set of some items, of which no two are the same. -/
def setOf (items : List Value) : Value :=
  match items.mapM natural? with
  | none => .set items
  | some numbers =>
    if numbers.all (· < smallBound items.length) then
      .set (((items.zip numbers).mergeSort fun a b => a.2 ≤ b.2).map Prod.fst)
    else .set items

end BuildSpec.Value
