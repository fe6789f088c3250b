import BuildSpec.Proofs.Version.Spelling

/-!
# Versions and their texts

A version can be written in many ways.  What is written for a version is read as this version, and
all the ways to write a text differently lead to the same version: blanks around it, a `v` in front,
zeros in front of a numeral, digits of another script, and a third numeral for zero.

* `denotes_text`, `ofText_text` — a version is read back from its text;
* `Respelled.denotes_iff` — a text in a different spelling denotes the same version;
* `versions_are_read_as_spelled` — what reading comes to, for all texts.
-/

namespace BuildSpec.Version

namespace Spelling

/-! ## A spelling as a text -/

/-- A spelling ends with a digit. -/
theorem exists_last_digit (s : Spelling) :
    ∃ front c, s.chars = front ++ [c] ∧ Text.isDigit c = true := by
  have hlast : ∃ (front : List Char) (n : Numeral), s.chars = front ++ n.digits := by
    rw [chars, numerals]
    cases s.patch with
    | none =>
        refine ⟨(if s.signed then ['v'] else []) ++ s.major.digits ++ ['.'], s.minor, ?_⟩
        simp [List.intercalate_cons_cons]
    | some patch =>
        refine ⟨(if s.signed then ['v'] else []) ++ s.major.digits ++ ['.'] ++ s.minor.digits
          ++ ['.'], patch, ?_⟩
        simp [List.intercalate_cons_cons]
  obtain ⟨front, n, hchars⟩ := hlast
  refine ⟨front ++ n.digits.dropLast, n.digits.getLast n.ne_nil, ?_,
    n.areDigits _ (List.getLast_mem n.ne_nil)⟩
  rw [hchars, List.append_assoc, List.dropLast_append_getLast]

/-- Neither end of a spelling is blank. -/
theorem trimBlanks_chars (s : Spelling) : Text.trimBlanks s.chars = s.chars := by
  refine Text.trim_of_ends (fun c hc => ?_) fun c hc => ?_
  · obtain ⟨first, rest, hnumerals, hdigit⟩ := s.exists_first_digit
    rw [chars, hnumerals] at hc
    cases hsigned : s.signed with
    | true =>
        rw [hsigned] at hc
        obtain rfl := Option.some.inj hc
        decide
    | false =>
        rw [hsigned] at hc
        obtain rfl := Option.some.inj hc
        exact Text.isBlank_of_isDigit hdigit
  · obtain ⟨front, last, hchars, hdigit⟩ := s.exists_last_digit
    rw [hchars, List.getLast?_concat] at hc
    obtain rfl := Option.some.inj hc
    exact Text.isBlank_of_isDigit hdigit

/-- A spelling as a text. -/
def text (s : Spelling) : String := String.ofList s.chars

theorem of_text (s : Spelling) : s.Of s.text := by
  rw [Of, text, String.toList_ofList, trimBlanks_chars]

theorem denotes_text_iff {s : Spelling} {v : Version} : Denotes s.text v ↔ s.version = v :=
  ⟨fun h => Denotes.unique ⟨s, s.of_text, rfl⟩ h, fun h => ⟨s, s.of_text, h⟩⟩

/-! ## The text of a version -/

/-- The numerals of a version, all three of them. -/
def ofVersion (v : Version) : Spelling :=
  ⟨false, .ofNat v.major, .ofNat v.minor, some (.ofNat v.patch)⟩

theorem text_ofVersion (v : Version) : (ofVersion v).text = v.text := by
  rw [text, ← String.toList_inj, String.toList_ofList]
  simp [ofVersion, chars, numerals, Numeral.ofNat, Version.text, List.intercalate_cons_cons]

theorem version_ofVersion (v : Version) : (ofVersion v).version = v := by
  simp only [ofVersion, version, Numeral.value_ofNat, Option.map_some, Option.getD_some]

end Spelling

variable {raw raw' : String} {v : Version}

/-- The numbers of a version have numerals that can be read. -/
structure IsShort (v : Version) : Prop where
  major : v.major < 10 ^ Number.maxDigits
  minor : v.minor < 10 ^ Number.maxDigits
  patch : v.patch < 10 ^ Number.maxDigits

/-- **The text of a version denotes it.** -/
theorem denotes_text (v : Version) : Denotes v.text v := by
  rw [← Spelling.text_ofVersion, Spelling.denotes_text_iff, Spelling.version_ofVersion]

/-- **The text of a version is read as this version**, if it can be read. -/
theorem ofText_text (h : v.IsShort) : ofText v.text = .ok v := by
  refine ofText_eq_ok_iff.mpr ⟨.ofVersion v, ?_, ?_, Spelling.version_ofVersion v⟩
  · rw [← Spelling.text_ofVersion]
    exact Spelling.of_text _
  · intro n hn
    simp only [Spelling.numerals, Spelling.ofVersion, Option.toList_some, List.mem_cons,
      List.not_mem_nil, or_false] at hn
    rcases hn with rfl | rfl | rfl
    · exact Numeral.isShort_ofNat_iff.mpr h.major
    · exact Numeral.isShort_ofNat_iff.mpr h.minor
    · exact Numeral.isShort_ofNat_iff.mpr h.patch

/-- A version that has been read can be read again. -/
theorem isShort_of_ofText (h : ofText raw = .ok v) : v.IsShort := by
  obtain ⟨s, -, hshort, rfl⟩ := ofText_eq_ok_iff.mp h
  refine ⟨(hshort s.major (by simp [Spelling.numerals])).value_lt,
    (hshort s.minor (by simp [Spelling.numerals])).value_lt, ?_⟩
  rw [Spelling.version, ← Spelling.third_value]
  exact (Spelling.third_isShort hshort).value_lt

/-! ## Other spellings -/

/-- One spelling is another one with a small change: with or without a `v`, with a numeral that is
written differently, or with a third numeral for zero that was left out. -/
inductive Spelling.Varied : Spelling → Spelling → Prop
  | sign (s : Spelling) (signed : Bool) : Varied s { s with signed }
  | major {s : Spelling} {n : Numeral} (h : Text.Rewritten s.major.digits n.digits) :
      Varied s { s with major := n }
  | minor {s : Spelling} {n : Numeral} (h : Text.Rewritten s.minor.digits n.digits) :
      Varied s { s with minor := n }
  | patch {s : Spelling} {old n : Numeral} (hold : s.patch = some old)
      (h : Text.Rewritten old.digits n.digits) : Varied s { s with patch := some n }
  | zero {s : Spelling} (h : s.patch = none) : Varied s { s with patch := some (.ofNat 0) }

theorem Spelling.Varied.version_eq {s s' : Spelling} (h : s.Varied s') :
    s'.version = s.version := by
  cases h with
  | sign signed => rfl
  | major h | minor h => simp only [version, Numeral.value, h.digitsValue_eq]
  | patch hold h =>
      simp only [version, hold, Option.map_some, Option.getD_some, Numeral.value, h.digitsValue_eq]
  | zero h => simp only [version, h, Option.map_some, Option.map_none, Option.getD, Numeral.value_ofNat]

/-- One text is another one with blanks around it, or with a small change in the spelling of a
version. -/
inductive Respelled : String → String → Prop
  | blanks (raw : String) {before after : String}
      (hbefore : ∀ c ∈ before.toList, Text.isBlank c = true)
      (hafter : ∀ c ∈ after.toList, Text.isBlank c = true) : Respelled raw (before ++ raw ++ after)
  | varied {s s' : Spelling} (h : s.Varied s') : Respelled s.text s'.text

/-- A text in a different spelling denotes the same version. -/
theorem Respelled.denotes_iff (h : Respelled raw raw') : Denotes raw v ↔ Denotes raw' v := by
  cases h with
  | @blanks _ before after hbefore hafter =>
      have htrim : Text.trimBlanks (before ++ raw ++ after).toList = Text.trimBlanks raw.toList := by
        rw [String.toList_append, String.toList_append]
        exact Text.trim_append hbefore hafter raw.toList
      simp only [Denotes, Spelling.Of, htrim]
  | varied h => rw [Spelling.denotes_text_iff, Spelling.denotes_text_iff, h.version_eq]

/-- Texts that differ in their spelling only: any number of small changes leads from one to the
other. -/
def SameButSpelling : String → String → Prop := Relation.EqvGen Respelled

/-- **Texts that differ in their spelling only denote the same version.** -/
theorem SameButSpelling.denotes_iff (h : SameButSpelling raw raw') :
    Denotes raw v ↔ Denotes raw' v := by
  induction h with
  | rel raw raw' h => exact h.denotes_iff
  | refl raw => rfl
  | symm raw raw' _ ih => exact ih.symm
  | trans raw middle raw' _ _ first second => exact first.trans second

/-- What is read of a text is read of it in any other spelling, unless that is too long. -/
theorem SameButSpelling.ofText (h : SameButSpelling raw raw') (hread : Version.ofText raw = .ok v) :
    Version.ofText raw' = .ok v ∨ ∃ fault, Version.ofText raw' = .error (.tooLong fault) :=
  (h.denotes_iff.mp (denotes_of_ofText hread)).ofText

/-! ## Reading -/

/-- **Versions are read as they are spelled.**  A text is read as a version exactly if, blanks around
it aside, it is an optional `v` and two or three rows of digits with points between them, none of
them too long, and the rows denote the numbers of the version, where a third row that is left out
stands for zero; it is malformed exactly if it is no such text at all; and otherwise one of its rows
is too long.  A version is denoted by its text, which is read as this version if it is not too long,
as it never is for a version that has been read.  Blanks around a text, a `v` in front of it, zeros
in front of its numerals, digits of other scripts and a third numeral for zero make no difference. -/
theorem versions_are_read_as_spelled :
    (∀ raw v, ofText raw = .ok v ↔ ∃ s : Spelling, s.Of raw ∧ s.IsShort ∧ s.version = v) ∧
    (∀ raw, ofText raw = .error (.malformed raw) ↔ ∀ s : Spelling, ¬ s.Of raw) ∧
    (∀ raw (s : Spelling), s.Of raw → ¬ s.IsShort → ∃ n ∈ s.numerals, ¬ n.IsShort ∧
      ofText raw = .error (.tooLong (.reading n.digits.length))) ∧
    (∀ v : Version, Denotes v.text v ∧ (v.IsShort → ofText v.text = .ok v)) ∧
    (∀ raw v, ofText raw = .ok v → ofText v.text = .ok v) ∧
    ∀ raw raw', SameButSpelling raw raw' → ∀ v, (Denotes raw v ↔ Denotes raw' v) ∧
      (ofText raw = .ok v →
        ofText raw' = .ok v ∨ ∃ fault, ofText raw' = .error (.tooLong fault)) :=
  ⟨fun _ _ => ofText_eq_ok_iff, fun _ => ofText_eq_malformed_iff,
    fun _ _ hs hlong => Spelling.ofText_of_not_isShort hs hlong,
    fun v => ⟨denotes_text v, ofText_text⟩, fun _ _ h => ofText_text (isShort_of_ofText h),
    fun _ _ h _ => ⟨h.denotes_iff, h.ofText⟩⟩

/-- A version with two numerals. -/
def plainSpelling : Spelling where
  signed := false
  major := .ofDigits ['1'] (by decide)
  minor := .ofDigits ['2'] (by decide)
  patch := none

/-- The same version with a `v` in front, a zero too many and a digit of another script. -/
def oddSpelling : Spelling where
  signed := true
  major := .ofDigits ['0', '1'] (by decide)
  minor := .ofDigits ['٢'] (by decide)
  patch := none

theorem sameButSpelling_odd : SameButSpelling "1.2.0" " v01.٢\n" := by
  let signed := { plainSpelling with signed := true }
  let padded := { signed with major := oddSpelling.major }
  have hzero : Respelled "1.2" "1.2.0" := .varied (.zero (s := plainSpelling) rfl)
  have hsign : Respelled "1.2" "v1.2" := .varied (.sign plainSpelling true)
  have hmajor : Respelled "v1.2" "v01.2" :=
    .varied (.major (s := signed) (n := oddSpelling.major) (.zero (by decide) ['1']))
  have hminor : Respelled "v01.2" "v01.٢" :=
    .varied (.minor (s := padded) (n := oddSpelling.minor) (.digit (by decide) [] []))
  have hblanks : Respelled "v01.٢" " v01.٢\n" :=
    @Respelled.blanks "v01.٢" " " "\n" (List.all_eq_true.mp (by decide))
      (List.all_eq_true.mp (by decide))
  exact .trans _ _ _ (.symm _ _ (.rel _ _ hzero)) <| .trans _ _ _ (.rel _ _ hsign) <|
    .trans _ _ _ (.rel _ _ hmajor) <| .trans _ _ _ (.rel _ _ hminor) (.rel _ _ hblanks)

/-- The odd spelling is read like any other. -/
theorem oddSpelling_is_read :
    SameButSpelling "1.2.0" " v01.٢\n" ∧ Denotes " v01.٢\n" ⟨1, 2, 0⟩ ∧
      ofText "1.2.0" = .ok ⟨1, 2, 0⟩ ∧ ofText " v01.٢\n" = .ok ⟨1, 2, 0⟩ := by
  obtain ⟨hread, -, -, htext, -, hsame⟩ := versions_are_read_as_spelled
  have hplain : Denotes "1.2.0" ⟨1, 2, 0⟩ := (htext ⟨1, 2, 0⟩).1
  have hten : 10 ≤ 10 ^ Number.maxDigits := Nat.le_self_pow (by decide) 10
  exact ⟨sameButSpelling_odd, (hsame _ _ sameButSpelling_odd _).1.mp hplain,
    (htext ⟨1, 2, 0⟩).2 ⟨Nat.lt_of_lt_of_le (by decide) hten, Nat.lt_of_lt_of_le (by decide) hten,
      Nat.lt_of_lt_of_le (by decide) hten⟩,
    (hread _ _).mpr ⟨oddSpelling, by decide, by decide, by decide⟩⟩

end BuildSpec.Version
