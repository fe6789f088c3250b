import BuildSpec.Pointer
import BuildSpec.Proofs.Text.Lines
import Mathlib.Data.List.Basic
import Mathlib.Data.List.Induction
import Mathlib.Logic.Function.Iterate

/-!
# Pointers can be taken apart

A pointer can be read back, since no slash is left inside an escaped token.  So different rows of
tokens have different pointers, and what is left of a pointer when its last part is dropped is the
pointer of the element around:

* `decode_encodeChars` — the tokens of a pointer can be read back;
* `encode_injective` — a pointer leads to one element only;
* `dropLast_encode` — one token less on the way is one part less in the pointer;
* `encloses_encode_iff` — so the texts that a pointer shrinks to are the pointers of the elements
  around.
-/

namespace BuildSpec.Pointer

/-! ## Reading back -/

theorem escape_tilde (rest : List Char) : escape ('~' :: rest) = '~' :: '0' :: escape rest := rfl

theorem escape_slash (rest : List Char) : escape ('/' :: rest) = '~' :: '1' :: escape rest := rfl

/-- A character that is neither a tilde nor a slash stays. -/
theorem escape_cons_of_ne {c : Char} (htilde : c ≠ '~') (hslash : c ≠ '/') (rest : List Char) :
    escape (c :: rest) = c :: escape rest := by
  have hplain : escapeChar c = [c] := by
    unfold escapeChar
    split <;> simp_all
  rw [escape, List.flatMap_cons, hplain]
  rfl

/-- Induction over the characters of a token, as they are escaped. -/
theorem token_induction {motive : List Char → Prop} (nil : motive [])
    (tilde : ∀ rest, motive rest → motive ('~' :: rest))
    (slash : ∀ rest, motive rest → motive ('/' :: rest))
    (other : ∀ c rest, c ≠ '~' → c ≠ '/' → motive rest → motive (c :: rest))
    (token : List Char) : motive token := by
  induction token with
  | nil => exact nil
  | cons c rest ih =>
      by_cases htilde : c = '~'
      · exact htilde ▸ tilde rest ih
      · by_cases hslash : c = '/'
        · exact hslash ▸ slash rest ih
        · exact other c rest htilde hslash ih

theorem unescape_of_ne {c : Char} (hc : c ≠ '~') (rest : List Char) :
    unescape (c :: rest) = c :: unescape rest := by
  conv_lhs => unfold unescape
  split <;> simp_all

/-- Escaping is undone. -/
theorem unescape_escape (token : List Char) : unescape (escape token) = token := by
  induction token using token_induction with
  | nil => rfl
  | tilde rest ih => rw [escape_tilde, unescape, ih]
  | slash rest ih => rw [escape_slash, unescape, ih]
  | other c rest htilde hslash ih =>
      rw [escape_cons_of_ne htilde hslash, unescape_of_ne htilde, ih]

/-- A text without separators is one part. -/
theorem splitAt_of_notMem {separator : Char} {part : List Char} (h : separator ∉ part) :
    Text.splitAt separator part = [part] := by
  rw [Text.splitAt_eq_splitOn, List.splitOn_eq_singleton h]

/-- The part in front of a separator is cut off. -/
theorem splitAt_append {separator : Char} {part : List Char} (h : separator ∉ part)
    (rest : List Char) :
    Text.splitAt separator (part ++ separator :: rest) = part :: Text.splitAt separator rest := by
  rw [Text.splitAt_eq_splitOn, Text.splitAt_eq_splitOn, List.splitOn_append_cons_self,
    List.splitOn_eq_singleton h, List.singleton_append]

/-- A pointer is cut into its escaped tokens, with nothing in front of the first slash. -/
theorem splitAt_encodeChars (part : List Char) (h : '/' ∉ part) (tokens : List (List Char)) :
    Text.splitAt '/' (part ++ encodeChars tokens) = part :: tokens.map escape := by
  induction tokens generalizing part with
  | nil =>
      have hnil : encodeChars [] = [] := rfl
      rw [hnil, List.append_nil, splitAt_of_notMem h, List.map_nil]
  | cons token rest ih =>
      have hcons : encodeChars (token :: rest) = '/' :: (escape token ++ encodeChars rest) := by
        simp [encodeChars]
      rw [hcons, splitAt_append h, ih _ (escape_no_slash token), List.map_cons]

/-- **The tokens of a pointer can be read back.** -/
theorem decode_encodeChars (tokens : List (List Char)) : decode (encodeChars tokens) = tokens := by
  have hsplit := splitAt_encodeChars [] List.not_mem_nil tokens
  rw [List.nil_append] at hsplit
  have hback : unescape ∘ escape = id := funext unescape_escape
  unfold decode
  rw [hsplit]
  simp [hback]

theorem encodeChars_injective : Function.Injective encodeChars :=
  Function.LeftInverse.injective decode_encodeChars

/-- **A pointer leads to one element only.** -/
theorem encode_injective : Function.Injective encode := by
  intro a b h
  have hchars := encodeChars_injective (String.ofList_injective h)
  exact List.map_injective_iff.mpr (fun _ _ => String.toList_inj.mp) hchars

/-- The way to an element starts with the way to one around it. -/
theorem child_append_encode (pointer token : String) (way : List String) :
    child pointer token ++ encode way = pointer ++ encode (token :: way) := by
  have hcons : encode (token :: way) = encode [token] ++ encode way := by
    unfold encode
    rw [← String.ofList_append, ← encodeChars_append]
    rfl
  rw [child, String.append_assoc, hcons]

/-- Below one element, different rows of tokens have different pointers. -/
theorem append_encode_inj {pointer : String} {a b : List String} :
    pointer ++ encode a = pointer ++ encode b ↔ a = b :=
  (String.append_right_inj pointer).trans encode_injective.eq_iff

theorem append_encode_nil (pointer : String) : pointer ++ encode [] = pointer :=
  String.append_empty

/-! ## Dropping the last part -/

/-- A text that is empty or begins with a slash.  All pointers are. -/
def IsPointer (pointer : String) : Prop := pointer = "" ∨ ∃ rest, pointer.toList = '/' :: rest

/-- A text is left of another one after its last part has been dropped any number of times. -/
def Encloses (outer pointer : String) : Prop := ∃ n, dropLast^[n] pointer = outer

theorem toList_encode (tokens : List String) :
    (encode tokens).toList = encodeChars (tokens.map String.toList) := by
  rw [encode, String.toList_ofList]

theorem isPointer_encode (tokens : List String) : IsPointer (encode tokens) := by
  cases tokens with
  | nil => exact Or.inl rfl
  | cons token rest => exact Or.inr ⟨_, toList_encode (token :: rest)⟩

theorem dropLast_of_notMem {pointer : String} (h : '/' ∉ pointer.toList) :
    dropLast pointer = pointer := if_neg h

theorem dropLast_of_append {pointer : String} {before after : List Char}
    (hpointer : pointer.toList = before ++ '/' :: after) (hafter : '/' ∉ after) :
    dropLast pointer = String.ofList before := by
  have hmem : '/' ∈ pointer.toList := by simp [hpointer]
  have hrest : (pointer.toList.reverse.dropWhile (· ≠ '/')).drop 1 = before.reverse := by
    have hreverse : pointer.toList.reverse = after.reverse ++ '/' :: before.reverse := by
      simp [hpointer]
    rw [hreverse, List.dropWhile_append_of_pos (by
      intro c hc
      have hne : c ≠ '/' := fun heq => hafter (heq ▸ List.mem_reverse.mp hc)
      simpa using hne)]
    simp
  rw [dropLast, if_pos hmem, hrest, List.reverse_reverse]

/-- A text with a slash has a last one. -/
theorem exists_last_slash {text : List Char} (h : '/' ∈ text) :
    ∃ before after, text = before ++ '/' :: after ∧ '/' ∉ after := by
  obtain ⟨after, before, htext, hafter⟩ := List.eq_append_cons_of_mem (List.mem_reverse.mpr h)
  refine ⟨before.reverse, after.reverse, ?_, by simpa using hafter⟩
  rw [← List.reverse_reverse text, htext]
  simp

/-- A part of a pointer can be dropped until nothing is left. -/
theorem IsPointer.dropLast {pointer : String} (h : IsPointer pointer) (hne : pointer ≠ "") :
    IsPointer (dropLast pointer) ∧ (Pointer.dropLast pointer).length < pointer.length := by
  obtain rfl | ⟨rest, hrest⟩ := h
  · exact absurd rfl hne
  · have hmem : '/' ∈ pointer.toList := by simp [hrest]
    obtain ⟨before, after, hpointer, hafter⟩ := exists_last_slash hmem
    rw [dropLast_of_append hpointer hafter, ← String.length_toList, ← String.length_toList,
      hpointer, String.toList_ofList]
    refine ⟨?_, by simp⟩
    cases before with
    | nil => exact Or.inl rfl
    | cons c before =>
        rw [hpointer] at hrest
        obtain ⟨rfl, -⟩ := List.cons.inj hrest
        exact Or.inr ⟨before, String.toList_ofList⟩

/-- A text that is no pointer never becomes one. -/
theorem not_isPointer_dropLast {pointer : String} (h : ¬ IsPointer pointer) :
    ¬ IsPointer (dropLast pointer) := by
  by_cases hmem : '/' ∈ pointer.toList
  · obtain ⟨before, after, hpointer, hafter⟩ := exists_last_slash hmem
    rw [dropLast_of_append hpointer hafter]
    cases before with
    | nil => exact absurd (Or.inr ⟨after, hpointer⟩) h
    | cons c before =>
        rintro (hempty | ⟨rest, hrest⟩)
        · cases String.ofList_eq_empty_iff.mp hempty
        · rw [String.toList_ofList] at hrest
          obtain ⟨rfl, -⟩ := List.cons.inj hrest
          exact h (Or.inr ⟨_, hpointer⟩)
  · rwa [dropLast_of_notMem hmem]

theorem Encloses.refl (pointer : String) : Encloses pointer pointer := ⟨0, rfl⟩

/-- The texts that a text shrinks to are itself and those that it shrinks to without its last
part. -/
theorem encloses_iff {outer pointer : String} :
    Encloses outer pointer ↔ outer = pointer ∨ Encloses outer (dropLast pointer) := by
  constructor
  · rintro ⟨n, rfl⟩
    cases n with
    | zero => exact Or.inl rfl
    | succ n => exact Or.inr ⟨n, rfl⟩
  · rintro (rfl | ⟨n, rfl⟩)
    · exact .refl outer
    · exact ⟨n + 1, rfl⟩

theorem encloses_empty_iff {outer : String} : Encloses outer "" ↔ outer = "" := by
  constructor
  · rintro ⟨n, rfl⟩
    induction n with
    | zero => rfl
    | succ n ih => exact ih
  · rintro rfl
    exact .refl ""

theorem length_dropLast_le (pointer : String) : (dropLast pointer).length ≤ pointer.length := by
  by_cases hmem : '/' ∈ pointer.toList
  · obtain ⟨before, after, hpointer, hafter⟩ := exists_last_slash hmem
    rw [dropLast_of_append hpointer hafter, ← String.length_toList, ← String.length_toList,
      hpointer, String.toList_ofList, List.length_append]
    omega
  · exact Nat.le_of_eq (congrArg String.length (dropLast_of_notMem hmem))

theorem Encloses.length_le {outer pointer : String} (h : Encloses outer pointer) :
    outer.length ≤ pointer.length := by
  obtain ⟨n, rfl⟩ := h
  induction n generalizing pointer with
  | zero => exact Nat.le_refl _
  | succ n ih => exact Nat.le_trans ih (length_dropLast_le pointer)

theorem Encloses.not_isPointer {outer pointer : String} (h : Encloses outer pointer)
    (hpointer : ¬ IsPointer pointer) : ¬ IsPointer outer := by
  obtain ⟨n, rfl⟩ := h
  induction n generalizing pointer with
  | zero => exact hpointer
  | succ n ih => exact ih (not_isPointer_dropLast hpointer)

/-- Every pointer shrinks to that of the root. -/
theorem IsPointer.encloses_empty {pointer : String} (h : IsPointer pointer) :
    Encloses "" pointer := by
  induction hlength : pointer.length using Nat.strongRecOn generalizing pointer with
  | ind n ih =>
    subst hlength
    by_cases hempty : pointer = ""
    · rw [hempty]
      exact .refl ""
    · obtain ⟨hleft, hshorter⟩ := h.dropLast hempty
      exact encloses_iff.mpr (Or.inr (ih _ hshorter hleft rfl))

/-- One token less on the way is one part less in the pointer. -/
theorem dropLast_encode (tokens : List String) (token : String) :
    dropLast (encode (tokens ++ [token])) = encode tokens := by
  have hchars : (encode (tokens ++ [token])).toList =
      encodeChars (tokens.map String.toList) ++ '/' :: escape token.toList := by
    rw [toList_encode, List.map_append, encodeChars_append]
    simp [encodeChars]
  exact dropLast_of_append hchars (escape_no_slash _)

/-- **A pointer shrinks to the pointers of the elements around**, and to nothing else. -/
theorem encloses_encode_iff {tokens : List String} {outer : String} :
    Encloses outer (encode tokens) ↔ ∃ n ≤ tokens.length, outer = encode (tokens.take n) := by
  induction tokens using List.reverseRecOn with
  | nil =>
      have hnil : encode [] = "" := rfl
      simp [hnil, encloses_empty_iff]
  | append_singleton tokens token ih =>
      rw [encloses_iff, dropLast_encode, ih]
      constructor
      · rintro (rfl | ⟨n, hn, rfl⟩)
        · exact ⟨(tokens ++ [token]).length, Nat.le_refl _, by rw [List.take_length]⟩
        · refine ⟨n, ?_, by rw [List.take_append_of_le_length hn]⟩
          rw [List.length_append]
          omega
      · rintro ⟨n, hn, rfl⟩
        by_cases hlast : n ≤ tokens.length
        · exact Or.inr ⟨n, hlast, by rw [List.take_append_of_le_length hlast]⟩
        · have hall : (tokens ++ [token]).length ≤ n := by
            rw [List.length_append, List.length_singleton]
            omega
          exact Or.inl (by rw [List.take_of_length_le hall])

/-! ## The pointers around a pointer, one after another -/

theorem enclosingFrom_of_notMem {text : List Char} (h : '/' ∉ text) (before : List Char) :
    enclosingFrom before text = [before.reverse ++ text] := by
  induction text generalizing before with
  | nil => simp [enclosingFrom]
  | cons c rest ih =>
      obtain ⟨hc, hrest⟩ := not_or.mp (mt List.mem_cons.mpr h)
      rw [enclosingFrom, if_neg (Ne.symm hc), ih hrest]
      simp

theorem enclosingFrom_append {after : List Char} (hafter : '/' ∉ after)
    (text before : List Char) :
    enclosingFrom before (text ++ '/' :: after) =
      (before.reverse ++ (text ++ '/' :: after)) :: enclosingFrom before text := by
  induction text generalizing before with
  | nil =>
      simp [enclosingFrom, enclosingFrom_of_notMem hafter]
  | cons c rest ih =>
      rw [List.cons_append, enclosingFrom, enclosingFrom, ih]
      split <;> simp

/-- The pointers around a pointer are those around what is left without its last part. -/
theorem enclosing_of_isPointer {pointer : String} (h : IsPointer pointer) :
    enclosing pointer = pointer :: if pointer = "" then [] else enclosing (dropLast pointer) := by
  obtain rfl | ⟨rest, hrest⟩ := h
  · rfl
  · have hne : pointer ≠ "" := by
      rintro rfl
      cases hrest
    have hmem : '/' ∈ pointer.toList := by simp [hrest]
    obtain ⟨before, after, hpointer, hafter⟩ := exists_last_slash hmem
    rw [if_neg hne, dropLast_of_append hpointer hafter, enclosing, hpointer,
      enclosingFrom_append hafter, List.reverse_nil, List.nil_append, ← hpointer, List.map_cons,
      String.ofList_toList, enclosing, String.toList_ofList]

end BuildSpec.Pointer
