import BuildSpec.Proofs.Text.Blank
import BuildSpec.Proofs.Text.Digit
import BuildSpec.Proofs.Text.Lines
import BuildSpec.Version
import Mathlib.Logic.Relation

/-!
# How versions are spelled

A version is two or three numerals with points between them, perhaps with a `v` in front.  Reading
takes the text apart again; blanks around it do not count.

* `Spelling` — the ways in which a version can be written, `Spelling.Of` the texts that are;
* `exists_spelling`, `numerals?_of_spelling` — the texts in which numerals are found;
* `ofText_eq_ok_iff`, `ofText_eq_malformed_iff` — the texts that are read, and those that are not.

A numeral may be too long to be counted, which is a fault of its own.  `Denotes` leaves that aside.
-/

namespace BuildSpec.Version

/-! ## Spellings -/

/-- A numeral of a version: a row of digits, of which there is at least one. -/
structure Numeral where
  digits : List Char
  ne_nil : digits ≠ []
  areDigits : ∀ c ∈ digits, Text.isDigit c = true

namespace Numeral

/-- The number that a numeral denotes. -/
def value (n : Numeral) : Nat := Text.digitsValue n.digits

/-- A numeral has no more digits than can be read. -/
def IsShort (n : Numeral) : Prop := n.digits.length ≤ Number.maxDigits

instance (n : Numeral) : Decidable n.IsShort := inferInstanceAs (Decidable (_ ≤ _))

/-- The numeral of a number. -/
def ofNat (n : Nat) : Numeral where
  digits := (toString n).toList
  ne_nil := by
    rw [Nat.toString_eq_repr, Nat.toList_repr]
    exact Nat.toDigits_ne_nil
  areDigits := by
    rw [Nat.toString_eq_repr, Nat.toList_repr]
    exact fun c hc => Text.isDigit_of_isDigit (Number.isDigits_toDigits n c hc)

theorem value_ofNat (n : Nat) : (ofNat n).value = n := Text.digitsValue_toString n

/-- The numeral of a number is short if the number is small. -/
theorem isShort_ofNat_iff {n : Nat} : (ofNat n).IsShort ↔ n < 10 ^ Number.maxDigits := by
  have hlength : (ofNat n).digits.length = (Nat.toDigits 10 n).length :=
    String.length_toList.trans (Number.length_toString n)
  rw [IsShort, hlength, Nat.length_toDigits_le_iff (by decide) (by decide)]

/-- A short numeral denotes a small number. -/
theorem IsShort.value_lt {n : Numeral} (h : n.IsShort) : n.value < 10 ^ Number.maxDigits :=
  Nat.lt_of_lt_of_le (Text.digitsValue_lt n.digits) (Nat.pow_le_pow_right (by decide) h)

end Numeral

/-- A way to write a version: two or three numerals, perhaps with a `v` in front. -/
structure Spelling where
  signed : Bool
  major : Numeral
  minor : Numeral
  patch : Option Numeral

namespace Spelling

/-- The numerals of a spelling, from left to right. -/
def numerals (s : Spelling) : List Numeral := s.major :: s.minor :: s.patch.toList

/-- The characters of a spelling: its numerals with points between them. -/
def chars (s : Spelling) : List Char :=
  (if s.signed then ['v'] else []) ++ ['.'].intercalate (s.numerals.map Numeral.digits)

/-- A text is spelled in a way, blanks around it aside. -/
def Of (s : Spelling) (raw : String) : Prop := Text.trimBlanks raw.toList = s.chars

instance (s : Spelling) (raw : String) : Decidable (s.Of raw) := inferInstanceAs (Decidable (_ = _))

/-- The version that is spelled; without a third numeral its third number is zero. -/
def version (s : Spelling) : Version :=
  ⟨s.major.value, s.minor.value, (s.patch.map Numeral.value).getD 0⟩

/-- No numeral has more digits than can be read. -/
def IsShort (s : Spelling) : Prop := ∀ n ∈ s.numerals, n.IsShort

instance (s : Spelling) : Decidable s.IsShort := inferInstanceAs (Decidable (∀ n ∈ _, _))

end Spelling

/-! ## Reading a spelling -/

theorem isNumeral_iff {digits : List Char} :
    isNumeral digits = true ↔ digits ≠ [] ∧ ∀ c ∈ digits, Text.isDigit c = true := by
  simp [isNumeral]

/-- The numeral with some digits. -/
def Numeral.ofDigits (digits : List Char) (h : isNumeral digits = true) : Numeral where
  digits := digits
  ne_nil := (isNumeral_iff.mp h).1
  areDigits := (isNumeral_iff.mp h).2

theorem Numeral.notMem {n : Numeral} {c : Char} (hc : Text.isDigit c = false) : c ∉ n.digits := by
  intro hmem
  rw [n.areDigits c hmem] at hc
  cases hc

/-- What is left of a text without a `v` in front. -/
def unsigned (text : List Char) : List Char :=
  match text with
  | 'v' :: rest => rest
  | rest => rest

/-- Reading begins with the `v`, goes on with cutting at the points, and ends with counting. -/
theorem numerals?_eq (text : List Char) : numerals? text =
    let numerals := Text.splitAt '.' (unsigned (Text.trimBlanks text))
    if !numerals.all isNumeral then none
    else match numerals with
      | [major, minor] => some (major, minor, none)
      | [major, minor, patch] => some (major, minor, some patch)
      | _ => none := rfl

theorem unsigned_of_head {text : List Char} (h : text.head? ≠ some 'v') : unsigned text = text := by
  unfold unsigned
  split
  · exact absurd rfl h
  · rfl

/-- A spelling begins with a digit, unless it begins with a `v`. -/
theorem Spelling.exists_first_digit (s : Spelling) :
    ∃ c rest, ['.'].intercalate (s.numerals.map Numeral.digits) = c :: rest ∧
      Text.isDigit c = true := by
  obtain ⟨c, more, hmajor⟩ := List.exists_cons_of_ne_nil s.major.ne_nil
  rw [numerals, List.map_cons, List.map_cons, List.intercalate_cons_cons, hmajor]
  exact ⟨c, _, rfl, s.major.areDigits c (hmajor ▸ List.mem_cons_self)⟩

/-- The `v` of a spelling is taken off. -/
theorem unsigned_chars (s : Spelling) :
    unsigned s.chars = ['.'].intercalate (s.numerals.map Numeral.digits) := by
  unfold Spelling.chars
  cases s.signed with
  | true => rfl
  | false =>
      obtain ⟨c, rest, hnumerals, hdigit⟩ := s.exists_first_digit
      have hc : c ≠ 'v' := by
        rintro rfl
        exact absurd hdigit (by decide)
      refine unsigned_of_head ?_
      rw [hnumerals]
      simpa using hc

/-- The numerals of a spelling stand between its points. -/
theorem splitAt_chars (s : Spelling) :
    Text.splitAt '.' (unsigned s.chars) = s.numerals.map Numeral.digits := by
  rw [unsigned_chars, Text.splitAt_eq_splitOn]
  refine List.splitOn_intercalate '.' ?_ (List.cons_ne_nil _ _)
  intro digits hdigits
  obtain ⟨n, -, rfl⟩ := List.mem_map.mp hdigits
  exact n.notMem (by decide)

/-- A text that is spelled in a way has the numerals of the spelling. -/
theorem numerals?_of_spelling {s : Spelling} {text : List Char}
    (h : Text.trimBlanks text = s.chars) :
    numerals? text = some (s.major.digits, s.minor.digits, s.patch.map Numeral.digits) := by
  have hall : (s.numerals.map Numeral.digits).all isNumeral = true := by
    rw [List.all_map, List.all_eq_true]
    exact fun n _ => isNumeral_iff.mpr ⟨n.ne_nil, n.areDigits⟩
  simp only [numerals?_eq, h, splitAt_chars, hall, Bool.not_true, Bool.false_eq_true, if_false]
  rw [Spelling.numerals]
  cases s.patch <;> rfl

theorem exists_eq_append_unsigned (text : List Char) :
    ∃ signed : Bool, text = (if signed then ['v'] else []) ++ unsigned text := by
  unfold unsigned
  split
  · exact ⟨true, rfl⟩
  · exact ⟨false, rfl⟩

/-- The numerals of a text stand between its points, two or three of them. -/
theorem splitAt_of_numerals? {text major minor : List Char} {patch : Option (List Char)}
    (h : numerals? text = some (major, minor, patch)) :
    Text.splitAt '.' (unsigned (Text.trimBlanks text)) = major :: minor :: patch.toList ∧
      ∀ digits ∈ major :: minor :: patch.toList, isNumeral digits = true := by
  rw [numerals?_eq] at h
  dsimp only at h
  split at h
  · cases h
  · next hall =>
      have hall : (Text.splitAt '.' (unsigned (Text.trimBlanks text))).all isNumeral = true := by
        simpa using hall
      split at h
      · next hparts =>
          cases h
          exact ⟨hparts, List.all_eq_true.mp (hparts ▸ hall)⟩
      · next hparts =>
          cases h
          exact ⟨hparts, List.all_eq_true.mp (hparts ▸ hall)⟩
      · cases h

/-- A text that has numerals is spelled in a way. -/
theorem exists_spelling {text major minor : List Char} {patch : Option (List Char)}
    (h : numerals? text = some (major, minor, patch)) :
    ∃ s : Spelling, Text.trimBlanks text = s.chars := by
  obtain ⟨hparts, hall⟩ := splitAt_of_numerals? h
  obtain ⟨signed, htext⟩ := exists_eq_append_unsigned (Text.trimBlanks text)
  have hjoin : ['.'].intercalate ((unsigned (Text.trimBlanks text)).splitOn '.') =
      unsigned (Text.trimBlanks text) := List.intercalate_splitOn '.'
  rw [← Text.splitAt_eq_splitOn, hparts] at hjoin
  rw [← hjoin] at htext
  obtain ⟨hmajor, hall⟩ := List.forall_mem_cons.mp hall
  obtain ⟨hminor, hpatch⟩ := List.forall_mem_cons.mp hall
  cases patch with
  | none => exact ⟨⟨signed, .ofDigits major hmajor, .ofDigits minor hminor, none⟩, htext⟩
  | some patch =>
      have hpatch := hpatch patch (List.mem_singleton_self patch)
      exact ⟨⟨signed, .ofDigits major hmajor, .ofDigits minor hminor,
        some (.ofDigits patch hpatch)⟩, htext⟩

/-! ## Reading a version -/

/-- A numeral is counted if it is short. -/
theorem number_of_isShort {n : Numeral} (h : n.IsShort) : number n.digits = .ok n.value :=
  if_neg (Nat.not_lt.mpr h)

theorem number_of_not_isShort {n : Numeral} (h : ¬ n.IsShort) :
    number n.digits = .error (.reading n.digits.length) :=
  if_pos (Nat.lt_of_not_le h)

namespace Spelling

variable {s : Spelling} {raw : String}

/-- The third numeral, which is that of zero if it is left out. -/
def third (s : Spelling) : Numeral := s.patch.getD (.ofNat 0)

theorem third_isShort (h : s.IsShort) : s.third.IsShort := by
  unfold third
  cases hpatch : s.patch with
  | none => exact (by decide : 1 ≤ Number.maxDigits)
  | some patch => exact h patch (by simp [numerals, hpatch])

theorem third_value (s : Spelling) : s.third.value = (s.patch.map Numeral.value).getD 0 := by
  unfold third
  cases s.patch with
  | none => exact Numeral.value_ofNat 0
  | some patch => rfl

/-- The numerals of a text are counted one after another. -/
theorem ofText_eq (h : s.Of raw) : ofText raw = do
    let major ← (number s.major.digits).mapError .tooLong
    let minor ← (number s.minor.digits).mapError .tooLong
    let patch ← (number s.third.digits).mapError .tooLong
    return ⟨major, minor, patch⟩ := by
  have hthird : (s.patch.map Numeral.digits).getD ['0'] = s.third.digits := by
    unfold third
    cases s.patch <;> rfl
  rw [ofText, numerals?_of_spelling h]
  simp only [hthird]

/-- **A text that is spelled in a way is read as the version that is spelled**, -/
theorem ofText_of_isShort (h : s.Of raw) (hshort : s.IsShort) : ofText raw = .ok s.version := by
  rw [ofText_eq h, number_of_isShort (hshort s.major (by simp [numerals])),
    number_of_isShort (hshort s.minor (by simp [numerals])), number_of_isShort (third_isShort hshort),
    version, ← third_value]
  rfl

/-- unless one of its numerals is too long. -/
theorem ofText_of_not_isShort (h : s.Of raw) (hlong : ¬ s.IsShort) :
    ∃ n ∈ s.numerals, ¬ n.IsShort ∧ ofText raw = .error (.tooLong (.reading n.digits.length)) := by
  rw [ofText_eq h]
  by_cases hmajor : s.major.IsShort
  · by_cases hminor : s.minor.IsShort
    · -- the numeral that is too long must be the third one, which is not left out then
      have hthird : ∃ n, s.patch = some n ∧ ¬ n.IsShort := by
        by_contra hnone
        simp only [not_exists, not_and, not_not] at hnone
        refine hlong fun n hn => ?_
        simp only [numerals, List.mem_cons, Option.mem_toList] at hn
        rcases hn with rfl | rfl | hn
        · exact hmajor
        · exact hminor
        · exact hnone n hn
      obtain ⟨n, hn, hlong⟩ := hthird
      refine ⟨n, by simp [numerals, hn], hlong, ?_⟩
      rw [number_of_isShort hmajor, number_of_isShort hminor, third, hn, Option.getD_some,
        number_of_not_isShort hlong]
      rfl
    · refine ⟨s.minor, by simp [numerals], hminor, ?_⟩
      rw [number_of_isShort hmajor, number_of_not_isShort hminor]
      rfl
  · refine ⟨s.major, by simp [numerals], hmajor, ?_⟩
    rw [number_of_not_isShort hmajor]
    rfl

end Spelling

/-- A text that is spelled in none of the ways is no version. -/
theorem ofText_of_unspelled {raw : String} (h : ∀ s : Spelling, ¬ s.Of raw) :
    ofText raw = .error (.malformed raw) := by
  have hnone : numerals? raw.toList = none := by
    by_contra hsome
    obtain ⟨⟨major, minor, patch⟩, hnumerals⟩ := Option.ne_none_iff_exists'.mp hsome
    obtain ⟨s, hs⟩ := exists_spelling hnumerals
    exact h s hs
  rw [ofText, hnone]

variable {raw : String} {v v' : Version}

/-- **A text is read as a version exactly if it is spelled as this version**, with numerals that
are short. -/
theorem ofText_eq_ok_iff :
    ofText raw = .ok v ↔ ∃ s : Spelling, s.Of raw ∧ s.IsShort ∧ s.version = v := by
  constructor
  · intro h
    by_cases hspelled : ∃ s : Spelling, s.Of raw
    · obtain ⟨s, hs⟩ := hspelled
      by_cases hshort : s.IsShort
      · rw [Spelling.ofText_of_isShort hs hshort] at h
        exact ⟨s, hs, hshort, Except.ok.inj h⟩
      · obtain ⟨n, -, -, hlong⟩ := Spelling.ofText_of_not_isShort hs hshort
        rw [hlong] at h
        cases h
    · rw [ofText_of_unspelled (not_exists.mp hspelled)] at h
      cases h
  · rintro ⟨s, hs, hshort, rfl⟩
    exact Spelling.ofText_of_isShort hs hshort

/-- **A text is malformed exactly if it is spelled in none of the ways.** -/
theorem ofText_eq_malformed_iff :
    ofText raw = .error (.malformed raw) ↔ ∀ s : Spelling, ¬ s.Of raw := by
  refine ⟨fun h s hs => ?_, ofText_of_unspelled⟩
  by_cases hshort : s.IsShort
  · rw [Spelling.ofText_of_isShort hs hshort] at h
    cases h
  · obtain ⟨n, -, -, hlong⟩ := Spelling.ofText_of_not_isShort hs hshort
    rw [hlong] at h
    cases h

/-! ## What a text denotes -/

/-- A text denotes a version, of numbers of any size. -/
def Denotes (raw : String) (v : Version) : Prop := ∃ s : Spelling, s.Of raw ∧ s.version = v

theorem denotes_of_ofText (h : ofText raw = .ok v) : Denotes raw v := by
  obtain ⟨s, hs, -, hv⟩ := ofText_eq_ok_iff.mp h
  exact ⟨s, hs, hv⟩

/-- What a text denotes is read, unless it is too long. -/
theorem Denotes.ofText (h : Denotes raw v) :
    Version.ofText raw = .ok v ∨ ∃ fault, Version.ofText raw = .error (.tooLong fault) := by
  obtain ⟨s, hs, rfl⟩ := h
  by_cases hshort : s.IsShort
  · exact .inl (Spelling.ofText_of_isShort hs hshort)
  · obtain ⟨n, -, -, hlong⟩ := Spelling.ofText_of_not_isShort hs hshort
    exact .inr ⟨_, hlong⟩

/-- A text denotes one version at most. -/
theorem Denotes.unique (h : Denotes raw v) (h' : Denotes raw v') : v = v' := by
  obtain ⟨s, hs, rfl⟩ := h
  obtain ⟨s', hs', rfl⟩ := h'
  have hsame := (numerals?_of_spelling hs).symm.trans (numerals?_of_spelling hs')
  simp only [Option.some.injEq, Prod.mk.injEq] at hsame
  obtain ⟨hmajor, hminor, hpatch⟩ := hsame
  have hthird : s.patch.map Numeral.value = s'.patch.map Numeral.value := by
    have hvalue : Numeral.value = Text.digitsValue ∘ Numeral.digits := rfl
    rw [hvalue, ← Option.map_map, hpatch, Option.map_map]
  simp only [Spelling.version, Numeral.value, hmajor, hminor, hthird]

end BuildSpec.Version
