import BuildSpec.Proofs.Version.Respelling
import Mathlib.Data.Prod.Lex
import Mathlib.Order.Nat

/-!
# The versions that a tool accepts

A spec may declare the oldest version of the tool that understands it.  Whether a tool accepts what
is declared is a matter of the order of versions, which is that of their three numbers, one after
another.

* `le_iff_numbers_le` — the order of versions is that of their numbers;
* `accepts_iff` — what a tool accepts: nothing, or the text of a version that is not newer;
* `check_of_other` — what is no text is refused, if it can be written in the refusal;
* `check_is_order_of_numbers` — so the tools that accept a version are those from it on;
* `long_number_has_no_verdict` — a number that cannot be written is not even refused.
-/

namespace BuildSpec.Version

variable {tool tool' v v' : Version} {raw raw' : String} {value : Value}

/-! ## The order of versions -/

/-- The numbers of a version, of which the first one that differs decides. -/
def numbers (v : Version) : ℕ ×ₗ ℕ ×ₗ ℕ := toLex (v.major, toLex (v.minor, v.patch))

theorem numbers_injective : Function.Injective numbers := by
  rintro ⟨major, minor, patch⟩ ⟨major', minor', patch'⟩ h
  simp only [numbers, EmbeddingLike.apply_eq_iff_eq, Prod.mk.injEq] at h
  obtain ⟨rfl, rfl, rfl⟩ := h
  rfl

theorem lt_iff_numbers_lt : v < v' ↔ v.numbers < v'.numbers := by
  rw [numbers, numbers, Prod.Lex.toLex_lt_toLex, Prod.Lex.toLex_lt_toLex]
  exact Iff.rfl

/-- **The order of versions is that of their numbers.** -/
theorem le_iff_numbers_le : v ≤ v' ↔ v.numbers ≤ v'.numbers := by
  rw [le_iff_lt_or_eq, numbers_injective.eq_iff, ← lt_iff_numbers_lt]
  exact Iff.rfl

theorem not_lt_iff_numbers_le : ¬ v < v' ↔ v'.numbers ≤ v.numbers := by
  rw [lt_iff_numbers_lt, not_lt]

/-! ## Verdicts -/

/-- A tool accepts what a spec declares: it comes to a verdict, and that is to go on. -/
def Accepts (tool : Version) (value : Value) : Prop :=
  ∃ verdict, check tool value = .ok verdict ∧ verdict.isCompatible = true

/-- What is declared is read, and then compared. -/
theorem check_of_ne_null (h : value ≠ .null) : check tool value =
    match ofValue value with
    | .error (.tooLong fault) => .error fault
    | .error fault => .ok (.unreadable fault)
    | .ok required => .ok (if tool < required then .tooOld required else .satisfied required) := by
  unfold check
  split
  · exact absurd rfl h
  · rfl

/-- The verdict on a version is that of the order. -/
theorem check_text (h : ofText raw = .ok v) :
    check tool (.text raw) = .ok (if tool < v then .tooOld v else .satisfied v) := by
  rw [check_of_ne_null (by simp), ofValue, h]

/-- A text that is not read as a version is not accepted. -/
theorem not_accepts_text {fault : Fault} (h : ofText raw = .error fault) :
    ¬ Accepts tool (.text raw) := by
  rintro ⟨verdict, hcheck, hcompatible⟩
  rw [check_of_ne_null (by simp), ofValue, h] at hcheck
  cases fault with
  | tooLong length => cases hcheck
  | _ =>
      cases hcheck
      cases hcompatible

/-- A value that can be written is shown in the refusal. -/
theorem faultOf_ne_tooLong (h : value.isWritable = true) (length : Number.LengthFault) :
    faultOf value ≠ .tooLong length := by
  have hshown : value.writeShown = .ok value.shown := if_pos h
  rw [faultOf, hshown]
  cases value <;> simp

/-- **What is no text is refused**, with words that show it, unless it cannot be written. -/
theorem check_of_other (hnull : value ≠ .null) (htext : ∀ s, value ≠ .text s) :
    check tool value = if value.isWritable then .ok (.unreadable (faultOf value))
      else .error .writing := by
  have hvalue : ofValue value = .error (faultOf value) := by
    rw [ofValue]
    exact htext
  rw [check_of_ne_null hnull, hvalue]
  by_cases hwritable : value.isWritable = true
  · rw [if_pos hwritable]
    have hother := faultOf_ne_tooLong hwritable
    cases hfault : faultOf value with
    | tooLong length => exact absurd hfault (hother length)
    | _ => rfl
  · have hshown : value.writeShown = .error .writing := if_neg hwritable
    rw [if_neg hwritable, faultOf, hshown]

/-! ## What is accepted -/

/-- Of the texts, a tool accepts those of versions that are not newer. -/
theorem accepts_text_iff : Accepts tool (.text raw) ↔
    ∃ required, ofText raw = .ok required ∧ required.numbers ≤ tool.numbers := by
  cases hread : ofText raw with
  | error fault =>
      refine iff_of_false (not_accepts_text hread) ?_
      rintro ⟨required, hrequired, -⟩
      cases hrequired
  | ok required =>
      simp only [Accepts, check_text hread, Except.ok.injEq, exists_eq_left', ← not_lt_iff_numbers_le]
      split
      · next hnewer => simpa [Verdict.isCompatible] using hnewer
      · next hnotNewer => simpa [Verdict.isCompatible] using hnotNewer

/-- **A tool accepts nothing at all, or the text of a version that is not newer.** -/
theorem accepts_iff : Accepts tool value ↔ value = .null ∨
    ∃ raw required, value = .text raw ∧ ofText raw = .ok required ∧
      required.numbers ≤ tool.numbers := by
  by_cases hnull : value = .null
  · subst hnull
    exact iff_of_true ⟨.undeclared, rfl, rfl⟩ (.inl rfl)
  · by_cases htext : ∃ raw, value = .text raw
    · obtain ⟨raw, rfl⟩ := htext
      rw [accepts_text_iff]
      simp
    · have hother : check tool value = _ := check_of_other hnull (not_exists.mp htext)
      refine iff_of_false ?_ ?_
      · rintro ⟨verdict, hcheck, hcompatible⟩
        rw [hother] at hcheck
        split at hcheck
        · cases hcheck
          cases hcompatible
        · cases hcheck
      · rintro (h | ⟨raw, -, h, -⟩)
        · exact hnull h
        · exact htext ⟨raw, h⟩

/-- A text comes to no verdict exactly if one of its numerals is too long. -/
theorem check_text_eq_error_iff {fault : Number.LengthFault} :
    check tool (.text raw) = .error fault ↔ ofText raw = .error (.tooLong fault) := by
  rw [check_of_ne_null (by simp), ofValue]
  cases ofText raw with
  | ok required => simp
  | error cause => cases cause <;> simp

theorem accepts_of_le (htool : tool.numbers ≤ tool'.numbers) (h : Accepts tool value) :
    Accepts tool' value := by
  rcases accepts_iff.mp h with hnull | ⟨raw, required, htext, hread, hle⟩
  · exact accepts_iff.mpr (.inl hnull)
  · exact accepts_iff.mpr (.inr ⟨raw, required, htext, hread, hle.trans htool⟩)

/-- Of two versions, one is accepted by the tool of the other. -/
theorem accepts_total (h : ofText raw = .ok v) (h' : ofText raw' = .ok v') :
    Accepts v (.text raw') ∨ Accepts v' (.text raw) :=
  (le_total v'.numbers v.numbers).imp (fun hle => accepts_text_iff.mpr ⟨v', h', hle⟩)
    fun hle => accepts_text_iff.mpr ⟨v, h, hle⟩

/-- Texts that differ in their spelling only are read as one version. -/
theorem SameButSpelling.eq_of_ofText (h : SameButSpelling raw raw') (hv : Version.ofText raw = .ok v)
    (hv' : Version.ofText raw' = .ok v') : v = v' :=
  (h.denotes_iff.mp (denotes_of_ofText hv)).unique (denotes_of_ofText hv')

/-- **What a tool accepts is decided by the order of numbers.**  A tool accepts what a spec declares
exactly if nothing is declared, or a text that is read as a version whose three numbers, one after
another, do not exceed its own.  A value of another kind is refused if it can be written, and there
is no verdict if it cannot; on a text there is none exactly if one of its numerals is too long.  So a
tool accepts what an older one accepts, and every version that is not newer than an accepted one; it
accepts its own version; of two versions, one is accepted by the tool of the other; and the verdict
depends on the spelling neither of the version of the tool nor of the one that is declared. -/
theorem check_is_order_of_numbers (tool : Version) :
    (∀ value, Accepts tool value ↔ value = .null ∨ ∃ raw required, value = .text raw ∧
      ofText raw = .ok required ∧ required.numbers ≤ tool.numbers) ∧
    (∀ value, value ≠ .null → (∀ raw, value ≠ .text raw) → check tool value =
      if value.isWritable then .ok (.unreadable (faultOf value)) else .error .writing) ∧
    (∀ raw fault, check tool (.text raw) = .error fault ↔ ofText raw = .error (.tooLong fault)) ∧
    (∀ tool' value, tool.numbers ≤ tool'.numbers → Accepts tool value → Accepts tool' value) ∧
    (∀ raw raw' v v', ofText raw = .ok v → ofText raw' = .ok v' → v'.numbers ≤ v.numbers →
      Accepts tool (.text raw) → Accepts tool (.text raw')) ∧
    (∀ raw, ofText raw = .ok tool → check tool (.text raw) = .ok (.satisfied tool)) ∧
    (∀ raw raw' tool', ofText raw = .ok tool → ofText raw' = .ok tool' →
      Accepts tool (.text raw') ∨ Accepts tool' (.text raw)) ∧
    ∀ raw raw' v v', SameButSpelling raw raw' → ofText raw = .ok v → ofText raw' = .ok v' →
      (∀ value, check v value = check v' value) ∧
        check tool (.text raw) = check tool (.text raw') := by
  refine ⟨fun _ => accepts_iff, fun _ => check_of_other, fun _ _ => check_text_eq_error_iff,
    fun _ _ => accepts_of_le, ?_, ?_, fun _ _ _ => accepts_total, ?_⟩
  · intro raw raw' v v' hv hv' hle haccepts
    obtain ⟨required, hrequired, htool⟩ := accepts_text_iff.mp haccepts
    obtain rfl : v = required := Except.ok.inj (hv.symm.trans hrequired)
    exact accepts_text_iff.mpr ⟨v', hv', hle.trans htool⟩
  · intro raw hread
    rw [check_text hread, if_neg (not_lt_iff_numbers_le.mpr (le_refl tool.numbers))]
  · intro raw raw' v v' hsame hv hv'
    obtain rfl := hsame.eq_of_ofText hv hv'
    exact ⟨fun _ => rfl, by rw [check_text hv, check_text hv']⟩

/-- A newer tool accepts a version in an odd spelling, and refuses a truth value. -/
theorem newer_tool_accepts_odd_spelling :
    ofText "1.2.0" = .ok ⟨1, 2, 0⟩ ∧ ofText " v01.٢\n" = .ok ⟨1, 2, 0⟩ ∧
      SameButSpelling "1.2.0" " v01.٢\n" ∧
      check ⟨1, 2, 0⟩ (.text " v01.٢\n") = .ok (.satisfied ⟨1, 2, 0⟩) ∧
      Accepts ⟨1, 10, 0⟩ (.text " v01.٢\n") ∧ ¬ Accepts ⟨1, 1, 9⟩ (.text " v01.٢\n") ∧
      check ⟨1, 2, 0⟩ (.bool true) = .ok (.unreadable (.notText "bool" "True")) := by
  obtain ⟨-, hother, -, hnewer, -, hself, -, hspelling⟩ := check_is_order_of_numbers ⟨1, 2, 0⟩
  have hplain : ofText "1.2.0" = .ok ⟨1, 2, 0⟩ :=
    ofText_eq_ok_iff.mpr ⟨{ plainSpelling with patch := some (.ofDigits ['0'] (by decide)) },
      by decide, by decide, by decide⟩
  have hodd : ofText " v01.٢\n" = .ok ⟨1, 2, 0⟩ :=
    ofText_eq_ok_iff.mpr ⟨oddSpelling, by decide, by decide, by decide⟩
  have hsame := (hspelling _ _ _ _ sameButSpelling_odd hplain hodd).2
  have hverdict : check ⟨1, 2, 0⟩ (.text " v01.٢\n") = .ok (.satisfied ⟨1, 2, 0⟩) :=
    hsame ▸ hself _ hplain
  refine ⟨hplain, hodd, sameButSpelling_odd, hverdict,
    hnewer ⟨1, 10, 0⟩ _ (by decide) ⟨_, hverdict, rfl⟩, ?_,
    hother (.bool true) (by simp) (by simp)⟩
  rw [(check_is_order_of_numbers ⟨1, 1, 9⟩).1]
  rintro (hnull | ⟨raw, required, htext, hread, hle⟩)
  · cases hnull
  · cases htext
    obtain rfl : required = ⟨1, 2, 0⟩ := Except.ok.inj (hread.symm.trans hodd)
    exact absurd hle (by decide)

/-- A number of more digits than are written. -/
def longNumber : Value := .int (Nat.pow 16 3572)

/-- **A number that cannot be written is not refused**: there is no verdict on it. -/
theorem long_number_has_no_verdict :
    check Version.tool longNumber = .error .writing ∧
      ¬ ∀ tool value, value ≠ .null → (∀ raw, value ≠ .text raw) →
        ∃ verdict, check tool value = .ok verdict ∧ verdict.isCompatible = false := by
  have hlong : longNumber.isWritable = false := by decide +kernel
  have hnull : longNumber ≠ .null := nofun
  have htext : ∀ raw, longNumber ≠ .text raw := fun _ => nofun
  have hnone : check Version.tool longNumber = .error .writing := by
    rw [check_of_other hnull htext, hlong]
    rfl
  refine ⟨hnone, fun hall => ?_⟩
  obtain ⟨verdict, hverdict, -⟩ := hall Version.tool longNumber hnull htext
  cases hnone.symm.trans hverdict

end BuildSpec.Version
