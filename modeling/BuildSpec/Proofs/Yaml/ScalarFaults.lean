import BuildSpec.Proofs.Yaml.LexerFaults
import BuildSpec.Yaml.Scalar

/-!
# The faults of scalars

A scalar may have a tag that its text does not live up to.  What is wrong then depends on the tag:

* `Fault.OfScalar` — the faults that go with a tag; the document is malformed only under a tag that
  has no scalars at all, or under the one for bytes;
* `ofScalar_of_scalarValue` — a scalar has no other faults.
-/

namespace BuildSpec.Yaml

/-- What may be wrong with the text of a scalar under a tag. -/
inductive Fault.OfScalar : Tag → Fault → Prop
  | truthValue {word : String} (h : truthValues.lookup word = none) :
      OfScalar .bool (.truthValue word)
  | noInteger : OfScalar .int .noDigits
  | integer {base : Nat} {digits : String}
      (h : Number.readInteger base digits.toList = .error .notDigits) :
      OfScalar .int (.integer base digits)
  | tooLong {count : Nat} (h : Number.maxDigits < count) : OfScalar .int (.tooLong (.reading count))
  | noNumber : OfScalar .float .noDigits
  | number {digits : String} (h : Number.readFloat? digits.toList = none) :
      OfScalar .float (.number digits)
  | weight : OfScalar .float .weight
  | timestamp : OfScalar .timestamp .timestamp
  | calendar (cause : CalendarFault) : OfScalar .timestamp (.calendar cause)
  | malformed {tag : Tag} (h : tag = .binary ∨ tag.isScalar = false) : OfScalar tag .malformed

open Fault

theorem faults_integerIn (base : Nat) (digits : List Char) :
    Faults (OfScalar .int) (integerIn base digits) := by
  unfold integerIn
  cases hread : Number.readInteger base digits with
  | ok n => exact .ok _
  | error cause =>
      cases cause with
      | notDigits => exact .error (.integer (by rwa [String.toList_ofList]))
      | tooLong fault =>
          obtain ⟨count, hcount, rfl⟩ := Number.eq_reading_of_readInteger hread
          exact .error (.tooLong hcount)

theorem faults_readInteger (text : String) : Faults (OfScalar .int) (readInteger text) := by
  have hresult : ∀ {size : Except Fault Int} (negative : Bool), Faults (OfScalar .int) size →
      Faults (OfScalar .int) (do
        let n ← size
        return Value.int (if negative then -n else n)) :=
    fun _ h => h.bind fun _ _ => .ok _
  unfold readInteger
  dsimp only
  split
  · exact .error .noInteger
  · split
    · exact .error .noInteger
    · exact .ok _
    · exact hresult _ (faults_integerIn _ _)
    · exact hresult _ (faults_integerIn _ _)
    · exact hresult _ (faults_integerIn _ _)
    · split
      · exact hresult _ (.map _ (.mapM fun _ _ => faults_integerIn _ _))
      · exact hresult _ (faults_integerIn _ _)

theorem faults_floatOf (digits : List Char) : Faults (OfScalar .float) (floatOf digits) := by
  unfold floatOf
  split
  · exact .ok _
  · next h => exact .error (.number (by rwa [String.toList_ofList]))

theorem faults_weightedSum (weight : Nat) (sum : Float) (digits : List Float) :
    Faults (OfScalar .float) (weightedSum weight sum digits) := by
  induction digits generalizing weight sum with
  | nil => exact .ok sum
  | cons d rest ih =>
      unfold weightedSum
      exact .ite (.error .weight) (ih _ _)

theorem faults_readFloat (text : String) : Faults (OfScalar .float) (readFloat text) := by
  have hresult : ∀ {size : Except Fault Float} (negative : Bool), Faults (OfScalar .float) size →
      Faults (OfScalar .float) (do
        let x ← size
        return Value.float (if negative then -x else x)) :=
    fun _ h => h.bind fun _ _ => .ok _
  unfold readFloat
  generalize floatParts text = parts
  obtain ⟨negative, size⟩ := parts
  dsimp only
  split
  · exact .error .noNumber
  · split
    · exact .ok _
    · split
      · exact .ok _
      · split
        · refine hresult _ (Faults.bind (.mapM fun _ _ => faults_floatOf _) fun ds _ => ?_)
          exact faults_weightedSum _ _ _
        · exact hresult _ (faults_floatOf _)

theorem faults_readTimestamp (text : String) :
    Faults (OfScalar .timestamp) (readTimestamp text) := by
  unfold readTimestamp
  dsimp only
  split
  · exact .error .timestamp
  · intro fault h
    obtain ⟨cause, rfl⟩ := mapError_eq_error h
    exact .calendar cause

/-- **The faults of a scalar, by its tag.** -/
theorem ofScalar_of_scalarValue {tag : Tag} {text : String} {fault : Fault}
    (h : scalarValue tag text = .error fault) : fault.OfScalar tag := by
  cases tag with
  | null | str => cases h
  | bool =>
      simp only [scalarValue, readTruth] at h
      split at h
      · cases h
      · next hword =>
        cases h
        exact .truthValue hword
  | int => exact faults_readInteger text fault h
  | float => exact faults_readFloat text fault h
  | timestamp => exact faults_readTimestamp text fault h
  | binary =>
      simp only [scalarValue] at h
      split at h
      · cases h
      · cases h
        exact .malformed (.inl rfl)
  | _ =>
      cases h
      exact .malformed (.inr rfl)

end BuildSpec.Yaml
