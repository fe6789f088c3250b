import BuildSpec.Proofs.Except
import BuildSpec.Yaml.Token.Lexer

/-!
# The faults of the lexer

Where the text of a document breaks off, it is malformed, but for two things: an escape may name a
number that is no character, and a number in a directive may be too long to be read.
-/

namespace BuildSpec

/-- A number that is too long to be read has more digits than one may have. -/
theorem Number.eq_reading_of_readInteger {base : Nat} {s : List Char} {fault : LengthFault}
    (h : readInteger base s = .error (.tooLong fault)) :
    ∃ count, maxDigits < count ∧ fault = .reading count := by
  unfold readInteger at h
  dsimp only at h
  split at h
  · next hlong =>
      cases h
      rw [Bool.and_eq_true, decide_eq_true_eq] at hlong
      exact ⟨_, hlong.2, rfl⟩
  · split at h <;> cases h

namespace Yaml

/-- A fault that the text of a document may have. -/
inductive Fault.Lexical : Fault → Prop
  | malformed : Lexical .malformed
  | codePoint {code : Nat} (h : 0x110000 ≤ code) : Lexical (.codePoint code)
  | tooLong {count : Nat} (h : Number.maxDigits < count) : Lexical (.tooLong (.reading count))

open Fault

theorem faults_malformed {α : Type} : Faults Lexical (.error .malformed : Except Fault α) :=
  .error .malformed

/-- A result that is only taken on a condition. -/
theorem faults_guard {α : Type} {c : Prop} [Decidable c] (a : α) :
    Faults Lexical (if c then pure a else throw .malformed : Except Fault α) := by
  split
  · exact .ok a
  · exact faults_malformed

namespace Cursor

/-! ## Scalars -/

theorem faults_hexNumber (count : Nat) (c : Cursor) : Faults Lexical (hexNumber count c) := by
  unfold hexNumber
  dsimp only
  split
  · exact .ok _
  · exact faults_malformed

theorem faults_quotedBreaks (n : Nat) (c : Cursor) : Faults Lexical (quotedBreaks n c) := by
  induction n generalizing c with
  | zero => exact .ok _
  | succ n ih =>
      unfold quotedBreaks
      split
      · exact faults_malformed
      · dsimp only
        split
        · exact (ih _).bind fun _ _ => .ok _
        · exact .ok _

theorem faults_escape (c : Cursor) : Faults Lexical c.escape := by
  unfold escape
  split
  · split
    · exact .ok _
    · refine (faults_hexNumber _ _).bind fun _ _ => ?_
      dsimp only
      split
      · exact .ok _
      · next hcode => exact .error (.codePoint (Nat.le_of_not_lt hcode))
    · split
      · exact faults_quotedBreaks _ _
      · exact faults_malformed
  · exact faults_malformed

theorem faults_quotedGap (c : Cursor) : Faults Lexical c.quotedGap := by
  unfold quotedGap
  dsimp only
  split
  · exact (faults_quotedBreaks _ _).bind fun _ _ => .ok _
  · split
    · exact faults_malformed
    · exact .ok _

theorem faults_quotedRest (double : Bool) (n : Nat) (c : Cursor) :
    Faults Lexical (quotedRest double n c) := by
  induction n generalizing c with
  | zero => exact faults_malformed
  | succ n ih =>
      unfold quotedRest
      split
      · split
        · split
          · exact (ih _).bind fun _ _ => .ok _
          · exact .ok _
        · split
          · exact .ok _
          · split
            · exact (faults_escape _).bind fun _ _ => (ih _).bind fun _ _ => .ok _
            · split
              · exact (faults_quotedGap _).bind fun _ _ => (ih _).bind fun _ _ => .ok _
              · exact (ih _).bind fun _ _ => .ok _
      · exact faults_malformed

theorem faults_quotedScalar (double : Bool) (c : Cursor) : Faults Lexical (c.quotedScalar double) :=
  faults_quotedRest double _ _

theorem faults_indentDigit (c : Cursor) : Faults Lexical c.indentDigit := by
  unfold indentDigit
  split
  · split
    · exact faults_malformed
    · split <;> exact .ok _
  · exact .ok _

theorem faults_blockHead (c : Cursor) : Faults Lexical c.blockHead := by
  unfold blockHead
  split
  · exact (faults_indentDigit _).bind fun digit _ => faults_guard _
  · refine (faults_indentDigit _).bind fun digit _ => ?_
    split
    split
    · exact faults_guard _
    · exact faults_guard _

theorem faults_restOfLine (c : Cursor) : Faults Lexical c.restOfLine := by
  unfold restOfLine
  extract_lets spaces comment
  split
  · exact .ok _
  · split
    · exact .ok _
    · exact faults_malformed

theorem faults_blockScalar (folds : Bool) (parentIndent : Int) (c : Cursor) :
    Faults Lexical (c.blockScalar folds parentIndent) := by
  unfold blockScalar
  refine (faults_blockHead _).bind fun head _ => ?_
  refine (faults_restOfLine _).bind fun line _ => ?_
  exact .ok _

/-! ## Names, tags and directives -/

theorem faults_anchorName (c : Cursor) : Faults Lexical c.anchorName := by
  unfold anchorName
  dsimp only
  split
  · exact faults_malformed
  · split
    · exact .ok _
    · exact faults_malformed

theorem faults_escapedBytes (n : Nat) (c : Cursor) : Faults Lexical (escapedBytes n c) := by
  induction n generalizing c with
  | zero => exact .ok _
  | succ n ih =>
      unfold escapedBytes
      split
      · refine (faults_hexNumber _ _).bind fun b _ => ?_
        exact (ih _).bind fun _ _ => .ok _
      · exact .ok _

theorem faults_tagChars (n : Nat) (c : Cursor) : Faults Lexical (tagChars n c) := by
  induction n generalizing c with
  | zero => exact .ok _
  | succ n ih =>
      unfold tagChars
      dsimp only
      split
      · refine (faults_escapedBytes _ _).bind fun b _ => ?_
        split
        · exact (ih _).bind fun _ _ => .ok _
        · exact faults_malformed
      · exact .ok _

theorem faults_tagUri (c : Cursor) : Faults Lexical c.tagUri := by
  unfold tagUri
  split
  · exact (faults_tagChars _ _).bind fun _ _ => .ok _
  · exact faults_malformed

theorem faults_tagHandle (c : Cursor) : Faults Lexical c.tagHandle := by
  unfold tagHandle
  split
  · exact faults_malformed
  · split
    · exact .ok _
    · dsimp only
      split
      · exact .ok _
      · exact faults_malformed

theorem faults_tag (c : Cursor) : Faults Lexical c.tag := by
  unfold tag
  split
  · refine (faults_tagUri _).bind fun uri _ => ?_
    split
    split
    · exact faults_guard _
    · exact faults_malformed
  · split
    · exact faults_guard _
    · split
      split
      · refine (faults_tagHandle _).bind fun _ _ => ?_
        exact (faults_tagUri _).bind fun _ _ => faults_guard _
      · exact (faults_tagUri _).bind fun _ _ => faults_guard _

theorem faults_directiveNumber (c : Cursor) : Faults Lexical c.directiveNumber := by
  unfold directiveNumber
  dsimp only
  split
  · exact .ok _
  · exact faults_malformed
  · next fault hfault =>
      obtain ⟨count, hcount, rfl⟩ := Number.eq_reading_of_readInteger hfault
      exact .error (.tooLong hcount)

theorem faults_directiveBody (name : String) (c : Cursor) :
    Faults Lexical (directiveBody name c) := by
  unfold directiveBody
  split
  · refine (faults_directiveNumber _).bind fun major _ => ?_
    split
    split
    · exact faults_malformed
    · exact (faults_directiveNumber _).bind fun minor _ => faults_guard _
  · split
    · refine (faults_tagHandle _).bind fun handle _ => ?_
      split
      split
      · exact faults_malformed
      · exact (faults_tagUri _).bind fun lead _ => faults_guard _
    · exact .ok _

theorem faults_directive (c : Cursor) : Faults Lexical c.directive := by
  unfold directive
  split
  split
  · exact faults_malformed
  · refine (faults_directiveBody _ _).bind fun body _ => ?_
    exact (faults_restOfLine _).bind fun _ _ => .ok _

end Cursor

namespace Lexer

variable (lx : Lexer)

theorem faults_dropStale : Faults Lexical lx.dropStale := by
  unfold dropStale
  split
  · exact faults_malformed
  · exact .ok _

theorem faults_dropCandidate : Faults Lexical lx.dropCandidate := by
  unfold dropCandidate
  split
  · exact faults_malformed
  · exact .ok _

theorem faults_addCandidate : Faults Lexical lx.addCandidate := by
  unfold addCandidate
  split
  · exact (faults_dropCandidate _).bind fun _ _ => .ok _
  · exact .ok _

/-- A token in front of which no key may be left to be marked. -/
theorem faults_afterDrop {α : Type} (f : Lexer → α) :
    Faults Lexical (do return f (← lx.dropCandidate)) :=
  (faults_dropCandidate lx).bind fun _ _ => .ok _

theorem faults_openBracket (kind : TokenKind) : Faults Lexical (lx.openBracket kind) :=
  (faults_addCandidate lx).bind fun _ _ => .ok _

theorem faults_directive : Faults Lexical lx.directive :=
  (faults_dropCandidate _).bind fun _ _ => (Cursor.faults_directive _).bind fun _ _ => .ok _

theorem faults_anchor (kind : String → TokenKind) : Faults Lexical (lx.anchor kind) :=
  (faults_addCandidate _).bind fun _ _ => (Cursor.faults_anchorName _).bind fun _ _ => .ok _

theorem faults_tag : Faults Lexical lx.tag :=
  (faults_addCandidate _).bind fun _ _ => (Cursor.faults_tag _).bind fun _ _ => .ok _

theorem faults_block (folds : Bool) : Faults Lexical (lx.block folds) :=
  (faults_dropCandidate _).bind fun _ _ => (Cursor.faults_blockScalar _ _ _).bind fun _ _ => .ok _

theorem faults_quotedScalar (double : Bool) : Faults Lexical (lx.quotedScalar double) :=
  (faults_addCandidate _).bind fun _ _ => (Cursor.faults_quotedScalar _ _).bind fun _ _ => .ok _

theorem faults_plainScalar : Faults Lexical lx.plainScalar :=
  (faults_addCandidate _).bind fun _ _ => .ok _

theorem faults_blockEntry : Faults Lexical lx.blockEntry := by
  unfold blockEntry
  split
  · exact faults_afterDrop _ _
  · split
    · exact faults_afterDrop _ _
    · exact faults_malformed

theorem faults_key : Faults Lexical lx.key := by
  unfold key
  split
  · exact faults_afterDrop _ _
  · split
    · exact faults_afterDrop _ _
    · exact faults_malformed

theorem faults_value : Faults Lexical lx.value := by
  unfold value
  split
  · exact .ok _
  · split
    · exact faults_afterDrop _ _
    · split
      · exact faults_afterDrop _ _
      · exact faults_malformed

theorem faults_dispatch (c : Char) : Faults Lexical (lx.dispatch c) := by
  unfold dispatch
  extract_lets lineStart gapFollows inFlow
  refine .ite (faults_directive lx) ?_
  refine .ite (faults_afterDrop _ _) ?_
  refine .ite (faults_afterDrop _ _) ?_
  refine .ite (faults_openBracket lx _) ?_
  refine .ite (faults_openBracket lx _) ?_
  refine .ite (faults_afterDrop _ _) ?_
  refine .ite (faults_afterDrop _ _) ?_
  refine .ite (faults_afterDrop _ _) ?_
  refine .ite (faults_blockEntry lx) ?_
  refine .ite (faults_key lx) ?_
  refine .ite (faults_value lx) ?_
  refine .ite (faults_anchor lx _) ?_
  refine .ite (faults_anchor lx _) ?_
  refine .ite (faults_tag lx) ?_
  refine .ite (faults_block lx _) ?_
  refine .ite (faults_block lx _) ?_
  refine .ite (faults_quotedScalar lx _) ?_
  refine .ite (faults_quotedScalar lx _) ?_
  exact .ite (faults_plainScalar lx) faults_malformed

theorem faults_step : Faults Lexical lx.step := by
  unfold step
  refine (faults_dropStale _).bind fun lx _ => ?_
  dsimp only
  split
  · exact (faults_afterDrop _ _).bind fun _ _ => .ok _
  · exact (faults_dispatch _ _).bind fun _ _ => .ok _

theorem lexical_of_run {n : Nat} {tokens : List Token} {fault : Fault}
    (h : lx.run n = (tokens, some fault)) : fault.Lexical := by
  induction n generalizing lx with
  | zero =>
      cases h
      exact .malformed
  | succ n ih =>
      rw [run] at h
      split at h
      · cases h
      · exact ih _ h
      · next cause hcause =>
          cases h
          exact faults_step lx _ hcause

end Lexer

theorem lexical_of_tokenize {text : String} {fault : Fault}
    (h : (tokenize text).2 = some fault) : fault.Lexical := by
  unfold tokenize at h
  dsimp only at h
  split at h
  · exact Lexer.lexical_of_run _ (Prod.ext rfl h)
  · cases h
    exact .malformed

end Yaml

end BuildSpec
