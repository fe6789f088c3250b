import BuildSpec.Proofs.Number.Numeral
import BuildSpec.Text.Blank
import BuildSpec.Text.Digit
import Mathlib.Tactic.Ring

/-!
# What digits of any script denote

A row of digits denotes a number in base ten, whatever scripts the digits are from.  The same number
can be denoted in many ways, since zeros may stand in front of it and each digit may be that of
another script:

* `digitsValue_append` — the digits in front count for more by the place;
* `digitsValue_lt` — a number is no longer than the row that denotes it;
* `digitsValue_toString` — the numeral of a number denotes it;
* `Rewritten.digitsValue_eq` — another way to write a row denotes the same number.
-/

namespace BuildSpec.Text

/-! ## Digits -/

theorem digitValue?_lt {c : Char} {n : Nat} (h : digitValue? c = some n) : n < 10 := by
  obtain ⟨first, hfirst, rfl⟩ := Option.map_eq_some_iff.mp h
  have hrange := List.find?_some hfirst
  simp only [Bool.and_eq_true, decide_eq_true_eq] at hrange
  omega

/-- The digits of ASCII are digits, with the values that they have there. -/
theorem digitValue?_of_isDigit {c : Char} (h : c.isDigit = true) :
    digitValue? c = some (c.toNat - 48) := by
  have hrange := Number.toNat_of_isDigit h
  have hfirst : (digitZeros.find? fun first => first ≤ c.toNat && c.toNat < first + 10) =
      some 0x30 := by
    refine List.find?_cons_of_pos ?_
    simp only [Bool.and_eq_true, decide_eq_true_eq]
    omega
  rw [digitValue?, hfirst]
  rfl

theorem isDigit_of_isDigit {c : Char} (h : c.isDigit = true) : isDigit c = true := by
  rw [isDigit, digitValue?_of_isDigit h]
  rfl

/-- No digit of any script is blank. -/
theorem isBlank_of_isDigit {c : Char} (h : isDigit c = true) : isBlank c = false := by
  have hapart : ∀ first ∈ digitZeros, ∀ range ∈ blankRanges,
      range.2 < first ∨ first + 10 ≤ range.1 := by decide
  obtain ⟨n, hn⟩ := Option.isSome_iff_exists.mp h
  obtain ⟨first, hfirst, -⟩ := Option.map_eq_some_iff.mp hn
  have hdigit := List.find?_some hfirst
  simp only [Bool.and_eq_true, decide_eq_true_eq] at hdigit
  refine List.any_eq_false.mpr fun range hrange hin => ?_
  simp only [Bool.and_eq_true, decide_eq_true_eq] at hin
  have hbeside := hapart first (List.mem_of_find?_eq_some hfirst) range hrange
  omega

/-! ## Rows of digits -/

/-- What stands behind a number moves it by as many places. -/
theorem foldl_digits (digits : List Char) (n : Nat) :
    digits.foldl (fun n c => 10 * n + (digitValue? c).getD 0) n =
      n * 10 ^ digits.length + digitsValue digits := by
  induction digits generalizing n with
  | nil => simp [digitsValue]
  | cons c rest ih =>
      have hfirst : digitsValue (c :: rest) =
          (10 * 0 + (digitValue? c).getD 0) * 10 ^ rest.length + digitsValue rest := ih _
      rw [List.foldl_cons, ih, hfirst, List.length_cons]
      ring

/-- **The digits in front count for more by the place.** -/
theorem digitsValue_append (front back : List Char) :
    digitsValue (front ++ back) = digitsValue front * 10 ^ back.length + digitsValue back := by
  rw [digitsValue, List.foldl_append, foldl_digits]
  rfl

theorem digitsValue_singleton (c : Char) : digitsValue [c] = (digitValue? c).getD 0 :=
  Nat.zero_add _

theorem digitsValue_cons (c : Char) (rest : List Char) :
    digitsValue (c :: rest) = (digitValue? c).getD 0 * 10 ^ rest.length + digitsValue rest := by
  rw [← List.singleton_append, digitsValue_append, digitsValue_singleton]

/-- **A number is no longer than the row that denotes it.** -/
theorem digitsValue_lt (digits : List Char) : digitsValue digits < 10 ^ digits.length := by
  induction digits with
  | nil => exact Nat.one_pos
  | cons c rest ih =>
      have hdigit : (digitValue? c).getD 0 + 1 ≤ 10 := by
        cases hvalue : digitValue? c with
        | none => decide
        | some n => exact digitValue?_lt hvalue
      calc digitsValue (c :: rest)
          = (digitValue? c).getD 0 * 10 ^ rest.length + digitsValue rest := digitsValue_cons c rest
        _ < (digitValue? c).getD 0 * 10 ^ rest.length + 10 ^ rest.length :=
            Nat.add_lt_add_left ih _
        _ = ((digitValue? c).getD 0 + 1) * 10 ^ rest.length := by ring
        _ ≤ 10 * 10 ^ rest.length := Nat.mul_le_mul_right _ hdigit
        _ = 10 ^ (c :: rest).length := by rw [List.length_cons]; ring

/-- Digits of ASCII denote what they denote there. -/
theorem digitsValue_eq_ofDigitChars {digits : List Char} (h : Number.IsDigits digits) :
    digitsValue digits = Nat.ofDigitChars 10 digits 0 := by
  induction digits with
  | nil => rfl
  | cons c rest ih =>
      obtain ⟨hc, hrest⟩ := List.forall_mem_cons.mp h
      rw [digitsValue_cons, Number.ofDigitChars_cons_eq, digitValue?_of_isDigit hc, ih hrest,
        Nat.mul_comm]
      rfl

/-- **The numeral of a number denotes it.** -/
theorem digitsValue_toString (n : Nat) : digitsValue (toString n).toList = n := by
  rw [Nat.toString_eq_repr, Nat.toList_repr,
    digitsValue_eq_ofDigitChars (Number.isDigits_toDigits n), Nat.ofDigitChars_ten_toDigits]

/-! ## Other ways to write a number -/

/-- One row of digits is another one in a different spelling: with a zero more in front, or with one
digit in another script. -/
inductive Rewritten : List Char → List Char → Prop
  | zero {c : Char} (hc : digitValue? c = some 0) (digits : List Char) :
      Rewritten digits (c :: digits)
  | digit {c c' : Char} (hc : digitValue? c = digitValue? c') (front back : List Char) :
      Rewritten (front ++ c :: back) (front ++ c' :: back)

/-- **Another way to write a row of digits denotes the same number.** -/
theorem Rewritten.digitsValue_eq {digits digits' : List Char} (h : Rewritten digits digits') :
    digitsValue digits' = digitsValue digits := by
  cases h with
  | zero hc digits => rw [digitsValue_cons, hc, Option.getD_some, Nat.zero_mul, Nat.zero_add]
  | digit hc front back =>
      rw [digitsValue_append, digitsValue_append, digitsValue_cons, digitsValue_cons, hc]
      simp only [List.length_cons]

end BuildSpec.Text
