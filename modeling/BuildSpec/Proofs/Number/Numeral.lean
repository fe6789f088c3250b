import Mathlib.Algebra.Group.Nat.Defs
import Mathlib.Data.List.Basic

/-!
# The order of numerals as texts

Numbers are written without leading zeros.  Among numerals of one length, the order of the texts is
that of the numbers; of two numerals of different lengths, the shorter one is compared with as many
digits of the longer one.  So as texts, `10` stands before `2`:

* `lt_iff_ofDigitChars_lt` — texts of digits of one length are ordered as their numbers;
* `toString_lt_toString_iff` — the order of all numerals.
-/

namespace BuildSpec.Number

/-- A text is made of digits. -/
def IsDigits (cs : List Char) : Prop := ∀ c ∈ cs, c.isDigit = true

theorem isDigits_toDigits (n : Nat) : IsDigits (Nat.toDigits 10 n) :=
  fun _ hc => Nat.isDigit_of_mem_toDigits (by decide) (by decide) hc

/-- Numerals hold nothing but digits. -/
theorem notMem_toString {c : Char} (hc : c.isDigit = false) (n : Nat) :
    c ∉ (toString n).toList := by
  rw [Nat.toString_eq_repr, Nat.toList_repr]
  intro hmem
  rw [isDigits_toDigits n c hmem] at hc
  cases hc

/-- Different numbers are written in different ways. -/
theorem eq_of_toString_eq {i j : Nat} (h : toString i = toString j) : i = j := by
  have hchars := congrArg String.toList h
  rw [Nat.toString_eq_repr, Nat.toString_eq_repr, Nat.toList_repr, Nat.toList_repr] at hchars
  rw [← @Nat.ofDigitChars_ten_toDigits i, hchars, Nat.ofDigitChars_ten_toDigits]

/-- The first digit decides between two numbers, and the rest of them only if it is the same. -/
theorem leading_lt_iff {place a b low low' : Nat} (hlow : low < place) (hlow' : low' < place) :
    place * a + low < place * b + low' ↔ a < b ∨ a = b ∧ low < low' := by
  rcases Nat.lt_trichotomy a b with h | rfl | h
  · have hle : place * a + place ≤ place * b := Nat.mul_le_mul_left place h
    omega
  · omega
  · have hle : place * b + place ≤ place * a := Nat.mul_le_mul_left place h
    omega

/-- What a first digit adds to a number. -/
theorem ofDigitChars_cons_eq (c : Char) (rest : List Char) :
    Nat.ofDigitChars 10 (c :: rest) 0 =
      10 ^ rest.length * (c.toNat - 48) + Nat.ofDigitChars 10 rest 0 := by
  rw [Nat.ofDigitChars_cons, Nat.ofDigitChars_eq_ofDigitChars_zero, Nat.mul_zero, Nat.zero_add]
  rfl

theorem toNat_of_isDigit {c : Char} (h : c.isDigit = true) : 48 ≤ c.toNat ∧ c.toNat ≤ 57 :=
  Char.isDigit_iff_toNat.mp h

/-- A number has no more digits than were written. -/
theorem ofDigitChars_lt {cs : List Char} (h : IsDigits cs) :
    Nat.ofDigitChars 10 cs 0 < 10 ^ cs.length := by
  induction cs with
  | nil => simp
  | cons c rest ih =>
      obtain ⟨hc, hrest⟩ := List.forall_mem_cons.mp h
      have hdigit : c.toNat - 48 + 1 ≤ 10 := by
        have hrange := toNat_of_isDigit hc
        omega
      calc Nat.ofDigitChars 10 (c :: rest) 0
          = 10 ^ rest.length * (c.toNat - 48) + Nat.ofDigitChars 10 rest 0 :=
            ofDigitChars_cons_eq c rest
        _ < 10 ^ rest.length * (c.toNat - 48) + 10 ^ rest.length :=
            Nat.add_lt_add_left (ih hrest) _
        _ = 10 ^ rest.length * (c.toNat - 48 + 1) := rfl
        _ ≤ 10 ^ rest.length * 10 := Nat.mul_le_mul_left _ hdigit
        _ = 10 ^ (c :: rest).length := rfl

/-- **Digits of one length are ordered as their numbers.** -/
theorem lt_iff_ofDigitChars_lt {as bs : List Char} (ha : IsDigits as) (hb : IsDigits bs)
    (hlength : as.length = bs.length) :
    as < bs ↔ Nat.ofDigitChars 10 as 0 < Nat.ofDigitChars 10 bs 0 := by
  induction as generalizing bs with
  | nil =>
      obtain rfl := List.eq_nil_of_length_eq_zero hlength.symm
      simp
  | cons a as ih =>
      cases bs with
      | nil => cases hlength
      | cons b bs =>
          obtain ⟨hfirst, has⟩ := List.forall_mem_cons.mp ha
          obtain ⟨hfirst', hbs⟩ := List.forall_mem_cons.mp hb
          have hlength : as.length = bs.length := Nat.succ.inj hlength
          have hrange := toNat_of_isDigit hfirst
          have hrange' := toNat_of_isDigit hfirst'
          have hlt : a < b ↔ a.toNat - 48 < b.toNat - 48 := by
            rw [Char.lt_def, UInt32.lt_iff_toNat_lt]
            change a.toNat < b.toNat ↔ _
            omega
          have heq : a = b ↔ a.toNat - 48 = b.toNat - 48 := by
            rw [← Char.toNat_inj]
            omega
          have hlow := ofDigitChars_lt has
          rw [hlength] at hlow
          rw [List.cons_lt_cons_iff, ofDigitChars_cons_eq, ofDigitChars_cons_eq, hlength,
            leading_lt_iff hlow (ofDigitChars_lt hbs), hlt, heq, ih has hbs hlength]

/-- Of two texts, one as long as the beginning of the other, the rest of the longer one does not
matter unless it is the only difference. -/
theorem lt_append_iff {as bs : List Char} (hlength : as.length = bs.length) (rest : List Char) :
    as < bs ++ rest ↔ as < bs ∨ as = bs ∧ rest ≠ [] := by
  induction as generalizing bs with
  | nil =>
      obtain rfl := List.eq_nil_of_length_eq_zero hlength.symm
      cases rest <;> simp
  | cons a as ih =>
      cases bs with
      | nil => cases hlength
      | cons b bs =>
          rw [List.cons_append, List.cons_lt_cons_iff, List.cons_lt_cons_iff,
            ih (Nat.succ.inj hlength), List.cons.injEq]
          tauto

/-- The first digits of a number are what is left of it when the others are taken away. -/
theorem ofDigitChars_take (n k : Nat) :
    Nat.ofDigitChars 10 ((Nat.toDigits 10 n).take k) 0 =
      n / 10 ^ ((Nat.toDigits 10 n).length - k) := by
  have hdigits := isDigits_toDigits n
  have hrest : IsDigits ((Nat.toDigits 10 n).drop k) :=
    fun c hc => hdigits c (List.mem_of_mem_drop hc)
  have hlow := ofDigitChars_lt hrest
  have hwhole := @Nat.ofDigitChars_ten_toDigits n
  rw [← List.take_append_drop k (Nat.toDigits 10 n), Nat.ofDigitChars_append,
    Nat.ofDigitChars_eq_ofDigitChars_zero] at hwhole
  rw [List.length_drop] at hlow hwhole
  exact (Nat.div_eq_of_lt_le (by rw [Nat.mul_comm]; omega)
    (by rw [Nat.mul_comm, Nat.mul_succ]; omega)).symm

theorem length_toString (n : Nat) : (toString n).length = (Nat.toDigits 10 n).length := by
  rw [Nat.toString_eq_repr, ← String.length_toList, Nat.toList_repr]

theorem length_toDigits_le {i j : Nat} (h : i ≤ j) :
    (Nat.toDigits 10 i).length ≤ (Nat.toDigits 10 j).length := by
  rw [Nat.length_toDigits_le_iff (by decide) Nat.length_toDigits_pos]
  have hj := ofDigitChars_lt (isDigits_toDigits j)
  rw [Nat.ofDigitChars_ten_toDigits] at hj
  exact Nat.lt_of_le_of_lt h hj

/-- Of two texts of digits, the shorter one comes first if it stands for no more than as many first
digits of the longer one. -/
theorem lt_iff_ofDigitChars_le {as bs : List Char} (ha : IsDigits as) (hb : IsDigits bs)
    (hle : as.length ≤ bs.length) (hne : as ≠ bs) :
    as < bs ↔ Nat.ofDigitChars 10 as 0 ≤ Nat.ofDigitChars 10 (bs.take as.length) 0 := by
  have hlength : as.length = (bs.take as.length).length := by
    rw [List.length_take, Nat.min_eq_left hle]
  have hfirst : IsDigits (bs.take as.length) := fun c hc => hb c (List.mem_of_mem_take hc)
  have hsplit := lt_append_iff hlength (bs.drop as.length)
  rw [List.take_append_drop] at hsplit
  rw [hsplit]
  by_cases hsame : as = bs.take as.length
  · -- the longer text goes on where the shorter one ends
    have hmore : bs.drop as.length ≠ [] := by
      intro hnil
      have hwhole := List.take_append_drop as.length bs
      rw [hnil, List.append_nil] at hwhole
      exact hne (hsame.trans hwhole)
    rw [← hsame]
    simp [hmore]
  · have hlt := lt_iff_ofDigitChars_lt ha hfirst hlength
    have hgt := lt_iff_ofDigitChars_lt hfirst ha hlength.symm
    have hdiffer : as < bs.take as.length ∨ bs.take as.length < as := by
      by_contra hnone
      obtain ⟨hnotlt, hnotgt⟩ := not_or.mp hnone
      exact hsame (List.le_antisymm hnotgt hnotlt)
    rw [hlt, hgt] at hdiffer
    rw [hlt]
    simp only [hsame, false_and, or_false]
    omega

/-- **The order of numerals.**  Of two numbers, the smaller one comes first as a text if it does not
exceed the number that as many first digits of the larger one stand for. -/
theorem toString_lt_toString_iff {i j : Nat} (h : i < j) :
    toString i < toString j ↔
      i ≤ j / 10 ^ ((toString j).length - (toString i).length) := by
  have hne : (toString i).toList ≠ (toString j).toList :=
    fun hsame => Nat.ne_of_lt h (eq_of_toString_eq (String.toList_inj.mp hsame))
  rw [Nat.toString_eq_repr, Nat.toString_eq_repr, Nat.toList_repr, Nat.toList_repr] at hne
  have horder := lt_iff_ofDigitChars_le (isDigits_toDigits i) (isDigits_toDigits j)
    (length_toDigits_le (Nat.le_of_lt h)) hne
  rw [ofDigitChars_take, Nat.ofDigitChars_ten_toDigits] at horder
  rw [String.lt_iff, length_toString, length_toString, Nat.toString_eq_repr, Nat.toString_eq_repr,
    Nat.toList_repr, Nat.toList_repr]
  exact horder

end BuildSpec.Number
