import BuildSpec.Proofs.Except
import BuildSpec.Text.Utf8

/-!
# Bytes that are text

Bytes are read as text exactly if they encode one: every character of a text has its bytes, from one
to four of them, and a row of bytes that is put together in another way is refused.

* `encodeUtf8` — the bytes of a text;
* `Stretch` — the bytes that are read as one character: they are its bytes (`Stretch.encode`), and
  the bytes of every character are read in this way (`Stretch.decode`, `stretch_encode`);
* `decodeFrom_eq_ok_iff`, `readText_eq_ok_iff` — both for all characters in a row.
-/

namespace BuildSpec.Text

/-- The bytes of a text. -/
def encodeUtf8 (s : String) : List UInt8 := s.toList.flatMap String.utf8EncodeChar

/-- These are the bytes in which the text is held. -/
theorem encodeUtf8_eq_data (s : String) : encodeUtf8 s = s.toUTF8.data.toList := by
  rw [String.toUTF8, ← String.utf8Encode_toList, List.utf8Encode, List.data_toByteArray]
  rfl

/-! ## One character -/

/-- The number of a character is what its bytes are made of. -/
theorem val_ofNat {n : Nat} (h : n.isValidChar) : (Char.ofNat n).val.toNat = n := by
  rw [Char.ofNat, dif_pos h]
  rfl

theorem ofNat_eq {n : Nat} {b : UInt8} (h : n = b.toNat) : UInt8.ofNat n = b := by
  rw [h, UInt8.ofNat_toNat]

theorem isContinuation_iff {b : UInt8} :
    isContinuation b = true ↔ 0x80 ≤ b.toNat ∧ b.toNat ≤ 0xBF := by
  simp [isContinuation, UInt8.le_iff_toNat_le]

/-- A byte that may follow the first one is a continuation byte. -/
theorem isSecond_iff {a b : UInt8} : isSecond a b = true ↔
    (0x80 ≤ b.toNat ∧ b.toNat ≤ 0xBF) ∧ (a.toNat = 0xE0 → 0xA0 ≤ b.toNat) ∧
      (a.toNat = 0xED → b.toNat ≤ 0x9F) ∧ (a.toNat = 0xF0 → 0x90 ≤ b.toNat) ∧
      (a.toNat = 0xF4 → b.toNat ≤ 0x8F) := by
  simp only [isSecond, isContinuation, ← UInt8.toNat_inj, UInt8.le_iff_toNat_le]
  split_ifs <;> simp at * <;> omega

/-- The bytes that are read as one character, and its number. -/
inductive Stretch : List UInt8 → Nat → Prop
  | one {a : UInt8} (ha : a.toNat < 0x80) : Stretch [a] a.toNat
  | two {a b : UInt8} (ha : 0xC2 ≤ a.toNat ∧ a.toNat < 0xE0) (hb : isContinuation b = true) :
      Stretch [a, b] (a.toNat % 0x20 * 0x40 + continuationBits b)
  | three {a b c : UInt8} (ha : 0xE0 ≤ a.toNat ∧ a.toNat < 0xF0) (hb : isSecond a b = true)
      (hc : isContinuation c = true) :
      Stretch [a, b, c] ((a.toNat % 0x10 * 0x40 + continuationBits b) * 0x40 + continuationBits c)
  | four {a b c d : UInt8} (ha : 0xF0 ≤ a.toNat ∧ a.toNat ≤ 0xF4) (hb : isSecond a b = true)
      (hc : isContinuation c = true) (hd : isContinuation d = true) :
      Stretch [a, b, c, d] (((a.toNat % 0x08 * 0x40 + continuationBits b) * 0x40
        + continuationBits c) * 0x40 + continuationBits d)

/-- What is read as a character are the bytes of this character. -/
theorem Stretch.encode {bytes : List UInt8} {n : Nat} (h : Stretch bytes n) :
    String.utf8EncodeChar (Char.ofNat n) = bytes := by
  cases h with
  | @one a ha =>
      have hvalid : a.toNat.isValidChar := .inl (by omega)
      rw [String.utf8EncodeChar, val_ofNat hvalid, if_pos (by omega), UInt8.ofNat_toNat]
  | @two a b ha hb =>
      rw [isContinuation_iff] at hb
      rw [continuationBits]
      have hvalid : (a.toNat % 0x20 * 0x40 + b.toNat % 0x40).isValidChar := .inl (by omega)
      rw [String.utf8EncodeChar, val_ofNat hvalid, if_neg (by omega), if_pos (by omega),
        ofNat_eq (b := a) (by omega), ofNat_eq (b := b) (by omega)]
  | @three a b c ha hb hc =>
      rw [isSecond_iff] at hb
      rw [isContinuation_iff] at hc
      rw [continuationBits, continuationBits]
      have hvalid :
          ((a.toNat % 0x10 * 0x40 + b.toNat % 0x40) * 0x40 + c.toNat % 0x40).isValidChar := by
        rw [Nat.isValidChar]
        omega
      rw [String.utf8EncodeChar, val_ofNat hvalid, if_neg (by omega), if_neg (by omega),
        if_pos (by omega), ofNat_eq (b := a) (by omega), ofNat_eq (b := b) (by omega),
        ofNat_eq (b := c) (by omega)]
  | @four a b c d ha hb hc hd =>
      rw [isSecond_iff] at hb
      rw [isContinuation_iff] at hc hd
      rw [continuationBits, continuationBits, continuationBits]
      have hvalid : (((a.toNat % 0x08 * 0x40 + b.toNat % 0x40) * 0x40 + c.toNat % 0x40) * 0x40
          + d.toNat % 0x40).isValidChar := by
        rw [Nat.isValidChar]
        omega
      rw [String.utf8EncodeChar, val_ofNat hvalid, if_neg (by omega), if_neg (by omega),
        if_neg (by omega), ofNat_eq (b := a) (by omega), ofNat_eq (b := b) (by omega),
        ofNat_eq (b := c) (by omega), ofNat_eq (b := d) (by omega)]

/-- The bytes of a character are read as this character. -/
theorem Stretch.decode {bytes : List UInt8} {n : Nat} (h : Stretch bytes n) (position : Nat)
    (rest : List UInt8) :
    decodeFrom position (bytes ++ rest) =
      (decodeFrom (position + bytes.length) rest).map (Char.ofNat n :: ·) := by
  cases h with
  | @one a ha =>
      have h1 : a < 0x80 := UInt8.lt_iff_toNat_lt.mpr ha
      rw [List.singleton_append, decodeFrom.eq_def]
      simp only [h1, if_true, List.length_singleton]
  | @two a b ha hb =>
      have hrange : ¬ a.toNat < 0x80 ∧ ¬ a.toNat < 0xC2 ∧ ¬ 0xF4 < a.toNat ∧ a.toNat < 0xE0 := by
        omega
      simp [decodeFrom, UInt8.lt_iff_toNat_lt, hrange, hb]
  | @three a b c ha hb hc =>
      have hrange : ¬ a.toNat < 0x80 ∧ ¬ a.toNat < 0xC2 ∧ ¬ 0xF4 < a.toNat ∧ ¬ a.toNat < 0xE0 ∧
          a.toNat < 0xF0 := by
        omega
      simp [decodeFrom, UInt8.lt_iff_toNat_lt, hrange, hb, hc]
  | @four a b c d ha hb hc hd =>
      have hrange : ¬ a.toNat < 0x80 ∧ ¬ a.toNat < 0xC2 ∧ ¬ 0xF4 < a.toNat ∧ ¬ a.toNat < 0xE0 ∧
          ¬ a.toNat < 0xF0 := by
        omega
      simp [decodeFrom, UInt8.lt_iff_toNat_lt, hrange, hb, hc, hd]

/-! ## Characters in a row -/

/-- Bytes that are read as characters are the bytes of these characters. -/
theorem eq_encode_of_decodeFrom {position : Nat} {bytes : List UInt8} {cs : List Char}
    (h : decodeFrom position bytes = .ok cs) : bytes = cs.flatMap String.utf8EncodeChar := by
  have hstep : ∀ {stretch rest : List UInt8} {n : Nat} {read : Except Utf8Fault (List Char)},
      Stretch stretch n → (∀ {cs}, read = .ok cs → rest = cs.flatMap String.utf8EncodeChar) →
      ∀ {cs}, read.map (Char.ofNat n :: ·) = .ok cs →
        stretch ++ rest = cs.flatMap String.utf8EncodeChar := by
    intro stretch rest n read hstretch hrest cs hread
    obtain ⟨more, hmore, rfl⟩ := map_eq_ok_iff.mp hread
    rw [List.flatMap_cons, hstretch.encode, hrest hmore]
  -- one case for each number of bytes, and one for the end; all others are faults
  fun_induction decodeFrom position bytes generalizing cs
  case case1 =>
    cases h
    rfl
  case case2 position a rest ha ih => exact hstep (.one (UInt8.lt_iff_toNat_lt.mp ha)) ih h
  case case5 position a h1 h2 h3 b rest hb c ih =>
    simp only [Bool.or_eq_true, decide_eq_true_eq, not_or, UInt8.lt_iff_toNat_lt,
      UInt8.reduceToNat] at h1 h2 h3
    exact hstep (.two (by omega) hb) ih h
  case case12 position a h1 h2 h3 h4 b c rest hb hc code ih =>
    simp only [Bool.or_eq_true, decide_eq_true_eq, not_or, UInt8.lt_iff_toNat_lt,
      UInt8.reduceToNat, Bool.not_eq_true', Bool.not_eq_false] at h1 h2 h3 h4 hb hc
    exact hstep (.three (by omega) hb hc) ih h
  case case22 position a h1 h2 h3 h4 b c d rest hb hc hd code ih =>
    simp only [Bool.or_eq_true, decide_eq_true_eq, not_or, UInt8.lt_iff_toNat_lt,
      UInt8.reduceToNat, Bool.not_eq_true', Bool.not_eq_false] at h1 h2 h3 h4 hb hc hd
    exact hstep (.four (by omega) hb hc hd) ih h
  all_goals cases h

/-- The bytes of a character are one of the stretches. -/
theorem stretch_encode (c : Char) : Stretch (String.utf8EncodeChar c) c.toNat := by
  have hvalid : c.toNat < 0xD800 ∨ 0xDFFF < c.toNat ∧ c.toNat < 0x110000 := c.valid
  have hof : ∀ {bytes n m}, Stretch bytes n → n = m → Stretch bytes m := by
    rintro bytes n m h rfl
    exact h
  have hval : c.val.toNat = c.toNat := rfl
  rw [String.utf8EncodeChar, hval]
  generalize c.toNat = v at hvalid
  split_ifs
  · refine hof (.one ?_) ?_ <;> rw [UInt8.toNat_ofNat'] <;> omega
  · refine hof (.two ?_ ?_) ?_ <;>
      simp only [isContinuation_iff, continuationBits, UInt8.toNat_ofNat'] <;> omega
  · refine hof (.three ?_ ?_ ?_) ?_ <;>
      simp only [isContinuation_iff, isSecond_iff, continuationBits, UInt8.toNat_ofNat'] <;> omega
  · refine hof (.four ?_ ?_ ?_ ?_) ?_ <;>
      simp only [isContinuation_iff, isSecond_iff, continuationBits, UInt8.toNat_ofNat'] <;> omega

/-- **Bytes are read as characters exactly if they are the bytes of these characters.** -/
theorem decodeFrom_eq_ok_iff {position : Nat} {bytes : List UInt8} {cs : List Char} :
    decodeFrom position bytes = .ok cs ↔ bytes = cs.flatMap String.utf8EncodeChar := by
  refine ⟨eq_encode_of_decodeFrom, ?_⟩
  rintro rfl
  induction cs generalizing position with
  | nil => rfl
  | cons c rest ih =>
      rw [List.flatMap_cons, (stretch_encode c).decode, ih, Char.ofNat_toNat]
      rfl

/-- Bytes are some text. -/
def IsUtf8 (bytes : List UInt8) : Prop := ∃ s, bytes = encodeUtf8 s

/-- **Bytes that are some text are read, with its line ends unified; other bytes are refused.** -/
theorem readText_eq_ok_iff {bytes : List UInt8} {text : String} :
    readText bytes = .ok text ↔
      ∃ s, bytes = encodeUtf8 s ∧ text = String.ofList (unifyLineEnds s.toList) := by
  rw [readText, decodeUtf8]
  constructor
  · intro h
    obtain ⟨cs, hcs, rfl⟩ := map_eq_ok_iff.mp h
    refine ⟨String.ofList cs, ?_, by rw [String.toList_ofList]⟩
    rw [encodeUtf8, String.toList_ofList, decodeFrom_eq_ok_iff.mp hcs]
  · rintro ⟨s, rfl, rfl⟩
    rw [decodeFrom_eq_ok_iff.mpr (show encodeUtf8 s = s.toList.flatMap _ from rfl)]
    rfl

theorem exists_readText_error_iff {bytes : List UInt8} :
    (∃ fault, readText bytes = .error fault) ↔ ¬ IsUtf8 bytes := by
  have hread : IsUtf8 bytes ↔ ∃ text, readText bytes = .ok text := by
    constructor
    · rintro ⟨s, hs⟩
      exact ⟨_, readText_eq_ok_iff.mpr ⟨s, hs, rfl⟩⟩
    · rintro ⟨text, htext⟩
      obtain ⟨s, hs, -⟩ := readText_eq_ok_iff.mp htext
      exact ⟨s, hs⟩
  rw [hread]
  cases readText bytes with
  | error fault => simp
  | ok text => simp

end BuildSpec.Text
