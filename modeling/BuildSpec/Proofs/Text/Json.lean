import BuildSpec.Proofs.Number.Numeral
import BuildSpec.Text.Json
import Mathlib.Data.List.TakeWhile

/-!
# Reading a JSON document

What has been written can be read again.  The reader takes what the grammar of JSON allows: white
space between any two tokens, all escapes, and escapes in pairs for characters beyond the first
65536.  Of the values, it knows those that a document here can hold:

* `readUnit_hexadecimal` — four digits are read as the unit that they were written for;
* `readCharacter_escape` — a character is read back from its escape, whatever character it is;
* `readNumber_toDigits`, `readQuoted_escape` — so are numbers and texts;
* `isRead` — so is a document, at whatever level it stands and whatever follows it;
* `read?_render` — so that a document can be told from its text;
* `read?_eq_none` — while a text that begins like no value is no document;
* `isAscii_write` — and the text is plain ASCII.
-/

namespace BuildSpec.Text.Json

/-! ## The reader -/

/-- White space between tokens. -/
def isSpace (c : Char) : Bool := c = ' ' || c = '\n' || c = '\r' || c = '\t'

/-- A text from its first token on. -/
def skip (s : List Char) : List Char := s.dropWhile isSpace

/-- The value of a hexadecimal digit. -/
def hexValue? (c : Char) : Option Nat :=
  if '0' ≤ c ∧ c ≤ '9' then some (c.toNat - '0'.toNat)
  else if 'a' ≤ c ∧ c ≤ 'f' then some (c.toNat - 'a'.toNat + 10)
  else if 'A' ≤ c ∧ c ≤ 'F' then some (c.toNat - 'A'.toNat + 10)
  else none

/-- Reads a 16-bit unit of four hexadecimal digits. -/
def readUnit : List Char → Option (Nat × List Char)
  | a :: b :: c :: d :: rest => do
    let high := 0x10 * (← hexValue? a) + (← hexValue? b)
    let low := 0x10 * (← hexValue? c) + (← hexValue? d)
    return (0x100 * high + low, rest)
  | _ => none

/-- The character that a letter behind a backslash stands for. -/
def lettered? (c : Char) : Option Char :=
  if c = '"' ∨ c = '\\' ∨ c = '/' then some c
  else if c = 'n' then some '\n'
  else if c = 'r' then some '\r'
  else if c = 't' then some '\t'
  else if c = 'b' then some '\x08'
  else if c = 'f' then some '\x0c'
  else none

/-- Reads the second unit of a pair; the two stand for one character. -/
def readPartner (high : Nat) : List Char → Option (Char × List Char)
  | '\\' :: 'u' :: rest => do
    let (low, rest) ← readUnit rest
    if 0xD800 ≤ high ∧ high < 0xDC00 ∧ 0xDC00 ≤ low ∧ low < 0xE000 then
      return (Char.ofNat (0x10000 + 0x400 * (high - 0xD800) + (low - 0xDC00)), rest)
    else none
  | _ => none

/-- Reads what follows a backslash.  A unit that is no character by itself needs a partner. -/
def readEscape : List Char → Option (Char × List Char)
  | [] => none
  | c :: rest =>
    if c = 'u' then do
      let (unit, rest) ← readUnit rest
      if unit.isValidChar then return (Char.ofNat unit, rest) else readPartner unit rest
    else (lettered? c).map (·, rest)

/-- Reads a character inside quotes.  Control characters must be written as escapes. -/
def readCharacter : List Char → Option (Char × List Char)
  | [] => none
  | c :: rest =>
    if c = '\\' then readEscape rest else if c < ' ' then none else some (c, rest)

/-- Reads a text up to its closing quote, of so many characters at most. -/
def readQuoted : Nat → List Char → Option (List Char × List Char)
  | 0, _ => none
  | n + 1, s =>
    if s.head? = some '"' then some ([], s.tail)
    else do
      let (c, rest) ← readCharacter s
      let (cs, rest) ← readQuoted n rest
      return (c :: cs, rest)

/-- Reads a number, which has no leading zeros. -/
def readNumber (s : List Char) : Option (Nat × List Char) :=
  let digits := s.takeWhile Char.isDigit
  if digits = [] ∨ digits.head? = some '0' ∧ digits ≠ ['0'] then none
  else some (Nat.ofDigitChars 10 digits 0, s.dropWhile Char.isDigit)

/-- Reads a mark that must come next. -/
def readMark (mark : Char) (s : List Char) : Option (List Char) :=
  match skip s with
  | [] => none
  | c :: rest => if c = mark then some rest else none

/-- Reads the name of a member, with the colon behind it. -/
def readName (n : Nat) (s : List Char) : Option (String × List Char) := do
  let (name, rest) ← readQuoted n (← readMark '"' s)
  return (String.ofList name, ← readMark ':' rest)

mutual

/-- Reads a value, of so many characters at most. -/
def readValue : Nat → List Char → Option (Json × List Char)
  | 0, _ => none
  | n + 1, s =>
    match skip s with
    | [] => none
    | c :: rest =>
      if c = '"' then (readQuoted n rest).map fun (cs, rest) => (.text (String.ofList cs), rest)
      else if c = '[' then
        match readMark ']' rest with
        | some rest => some (.array [], rest)
        | none => do
          let (item, rest) ← readValue n rest
          let (items, rest) ← readItems n rest
          return (.array (item :: items), rest)
      else if c = '\x7b' then
        match readMark '\x7d' rest with
        | some rest => some (.object [], rest)
        | none => do
          let (name, rest) ← readName n rest
          let (value, rest) ← readValue n rest
          let (members, rest) ← readMembers n rest
          return (.object ((name, value) :: members), rest)
      else (readNumber (c :: rest)).map fun (n, rest) => (.number n, rest)

/-- Reads the items behind the first one, with the bracket behind them. -/
def readItems : Nat → List Char → Option (List Json × List Char)
  | 0, _ => none
  | n + 1, s =>
    match readMark ']' s with
    | some rest => some ([], rest)
    | none => do
      let (item, rest) ← readValue n (← readMark ',' s)
      let (items, rest) ← readItems n rest
      return (item :: items, rest)

/-- Reads the members behind the first one, with the brace behind them. -/
def readMembers : Nat → List Char → Option (List (String × Json) × List Char)
  | 0, _ => none
  | n + 1, s =>
    match readMark '\x7d' s with
    | some rest => some ([], rest)
    | none => do
      let (name, rest) ← readName n (← readMark ',' s)
      let (value, rest) ← readValue n rest
      let (members, rest) ← readMembers n rest
      return ((name, value) :: members, rest)

end

/-- Reads a text that is one document. -/
def read? (s : String) : Option Json :=
  match readValue s.length s.toList with
  | some (j, rest) => if skip rest = [] then some j else none
  | none => none

/-! ## Units and characters -/

theorem hexValue?_digitChar {d : Nat} (h : d < 16) : hexValue? d.digitChar = some d := by
  have hall : ∀ d < 16, hexValue? (Nat.digitChar d) = some d := by decide
  exact hall d h

/-- The last digit of a number in hexadecimal. -/
theorem hexadecimal_succ {width : Nat} (hwidth : 0 < width) (n : Nat) :
    hexadecimal (width + 1) n = hexadecimal width (n / 16) ++ [(n % 16).digitChar] := by
  unfold hexadecimal
  by_cases hn : n < 16
  · obtain ⟨w, rfl⟩ : ∃ w, width = w + 1 := ⟨width - 1, by omega⟩
    rw [Nat.div_eq_of_lt hn, Nat.mod_eq_of_lt hn, Nat.toDigits_of_lt_base hn, Nat.toDigits_zero]
    simp [List.leftpad, List.replicate_succ']
  · rw [Nat.toDigits_of_base_le (by decide) (by omega)]
    simp [List.leftpad]

theorem hexadecimal_one {n : Nat} (h : n < 16) : hexadecimal 1 n = [n.digitChar] := by
  rw [hexadecimal, Nat.toDigits_of_lt_base h]
  rfl

theorem hexadecimal_four {n : Nat} (h : n < 0x10000) :
    hexadecimal 4 n = [(n / 16 / 16 / 16).digitChar, (n / 16 / 16 % 16).digitChar,
      (n / 16 % 16).digitChar, (n % 16).digitChar] := by
  have hfirst : n / 16 / 16 / 16 < 16 := by omega
  rw [hexadecimal_succ (by decide), hexadecimal_succ (by decide), hexadecimal_succ (by decide),
    hexadecimal_one hfirst]
  simp only [List.cons_append, List.nil_append]

/-- Four digits are read as the unit that they were written for. -/
theorem readUnit_hexadecimal {n : Nat} (h : n < 0x10000) (rest : List Char) :
    readUnit (hexadecimal 4 n ++ rest) = some (n, rest) := by
  rw [hexadecimal_four h]
  simp only [List.cons_append, List.nil_append, readUnit]
  rw [hexValue?_digitChar (by omega), hexValue?_digitChar (by omega),
    hexValue?_digitChar (by omega), hexValue?_digitChar (by omega)]
  simp only [Option.bind_eq_bind, Option.bind_some, Option.pure_def, Option.some.injEq,
    Prod.mk.injEq, and_true]
  omega

/-- A unit that is a character is read as such. -/
theorem readEscape_unit {n : Nat} (h : n < 0x10000) (hvalid : n.isValidChar) (rest : List Char) :
    readEscape ('u' :: hexadecimal 4 n ++ rest) = some (Char.ofNat n, rest) := by
  rw [List.cons_append, readEscape, if_pos rfl, readUnit_hexadecimal h]
  simp only [Option.bind_eq_bind, Option.bind_some, if_pos hvalid]
  rfl

/-- Two units that are no characters are read as one character. -/
theorem readEscape_pair {high low : Nat} (hhigh : 0xD800 ≤ high ∧ high < 0xDC00)
    (hlow : 0xDC00 ≤ low ∧ low < 0xE000) (rest : List Char) :
    readEscape ('u' :: hexadecimal 4 high ++ (unitEscape low ++ rest)) =
      some (Char.ofNat (0x10000 + 0x400 * (high - 0xD800) + (low - 0xDC00)), rest) := by
  have hinvalid : ¬ high.isValidChar := by
    unfold Nat.isValidChar
    omega
  rw [List.cons_append, readEscape, if_pos rfl, readUnit_hexadecimal (by omega)]
  simp only [Option.bind_eq_bind, Option.bind_some, if_neg hinvalid, unitEscape, List.cons_append,
    readPartner]
  rw [readUnit_hexadecimal (by omega), Option.bind_some,
    if_pos ⟨hhigh.1, hhigh.2, hlow.1, hlow.2⟩]
  rfl

/-- The escape of a character by its number is read back. -/
theorem readCharacter_codeEscape (c : Char) (rest : List Char) :
    readCharacter (codeEscape c.toNat ++ rest) = some (c, rest) := by
  have hvalid : c.toNat.isValidChar := c.valid
  unfold codeEscape
  split
  · next hsmall =>
      rw [unitEscape, List.cons_append, readCharacter, if_pos rfl,
        readEscape_unit (by omega) hvalid, Char.ofNat_toNat]
  · next hlarge =>
      have hbound : c.toNat < 0x110000 := by
        unfold Nat.isValidChar at hvalid
        omega
      have hvalue : 0x10000 + 0x400 * (0xD800 + (c.toNat - 0x10000) / 0x400 - 0xD800)
          + (0xDC00 + (c.toNat - 0x10000) % 0x400 - 0xDC00) = c.toNat := by omega
      rw [List.append_assoc, unitEscape, List.cons_append, readCharacter, if_pos rfl,
        readEscape_pair (by omega) (by omega), hvalue, Char.ofNat_toNat]

/-- **A character is read back from its escape.** -/
theorem readCharacter_escape (c : Char) (rest : List Char) :
    readCharacter (escape c ++ rest) = some (c, rest) := by
  unfold escape
  split
  · next h => rcases h with rfl | rfl <;> rfl
  split
  · next h => subst h; rfl
  split
  · next h => subst h; rfl
  split
  · next h => subst h; rfl
  split
  · next h => subst h; rfl
  split
  · next h => subst h; rfl
  split
  · next hspecial _ _ _ _ _ hprintable =>
      obtain ⟨-, hbackslash⟩ := not_or.mp hspecial
      rw [List.singleton_append, readCharacter, if_neg hbackslash,
        if_neg (Char.not_lt.mpr hprintable.1)]
  · exact readCharacter_codeEscape c rest

theorem head?_codeEscape (n : Nat) : (codeEscape n).head? = some '\\' := by
  unfold codeEscape
  split
  · rfl
  · rfl

/-- No escape looks like the closing quote. -/
theorem head?_escape_ne_quote (c : Char) : (escape c).head? ≠ some '"' := by
  unfold escape
  split
  · simp
  split
  · simp
  split
  · simp
  split
  · simp
  split
  · simp
  split
  · simp
  split
  · next hspecial _ _ _ _ _ _ =>
      intro hquote
      exact hspecial (.inl (Option.some.inj hquote))
  · rw [head?_codeEscape]
    decide

theorem length_escape_pos (c : Char) : 0 < (escape c).length := by
  rw [List.length_pos_iff]
  intro hnil
  have hread := readCharacter_escape c []
  rw [hnil] at hread
  cases hread

/-! ## Texts and numbers -/

/-- A text is read back up to its closing quote. -/
theorem readQuoted_escape {n : Nat} {s : List Char} (h : (s.flatMap escape).length < n)
    (rest : List Char) : readQuoted n (s.flatMap escape ++ '"' :: rest) = some (s, rest) := by
  induction s generalizing n with
  | nil =>
      obtain ⟨m, rfl⟩ : ∃ m, n = m + 1 := ⟨n - 1, by simp at h; omega⟩
      rfl
  | cons c s ih =>
      rw [List.flatMap_cons, List.length_append] at h
      obtain ⟨m, rfl⟩ : ∃ m, n = m + 1 := ⟨n - 1, by omega⟩
      have hshorter : (s.flatMap escape).length < m := by
        have hpos := length_escape_pos c
        omega
      have hhead : (escape c ++ (s.flatMap escape ++ '"' :: rest)).head? ≠ some '"' := by
        rw [List.head?_append_of_ne_nil _ (List.ne_nil_of_length_pos (length_escape_pos c))]
        exact head?_escape_ne_quote c
      rw [List.flatMap_cons, List.append_assoc, readQuoted, if_neg hhead, readCharacter_escape]
      simp only [Option.bind_eq_bind, Option.bind_some, ih hshorter]
      rfl

/-- What follows a number is no digit. -/
def EndsNumber (rest : List Char) : Prop := ∀ c ∈ rest.head?, c.isDigit = false

theorem endsNumber_cons {c : Char} (h : c.isDigit = false) (rest : List Char) :
    EndsNumber (c :: rest) := by
  intro d hd
  obtain rfl := Option.some.inj hd
  exact h

/-- Numbers are written without leading zeros. -/
theorem toDigits_eq_zero_of_head {n : Nat} (h : (Nat.toDigits 10 n).head? = some '0') :
    Nat.toDigits 10 n = ['0'] := by
  obtain ⟨rest, hdigits⟩ := List.head?_eq_some_iff.mp h
  cases rest with
  | nil => exact hdigits
  | cons c rest =>
      -- the other digits alone would stand for the same number
      have hall := Number.isDigits_toDigits n
      rw [hdigits] at hall
      have hsmall := Number.ofDigitChars_lt (List.forall_mem_cons.mp hall).2
      have hvalue := @Nat.ofDigitChars_ten_toDigits n
      rw [hdigits, Number.ofDigitChars_cons_eq] at hvalue
      have hlength := (Nat.length_toDigits_le_iff (by decide)
        (by simp : 0 < (c :: rest).length)).mpr (show n < 10 ^ (c :: rest).length by
          simp at hvalue hsmall ⊢
          omega)
      rw [hdigits, List.length_cons] at hlength
      omega

/-- A number is read back. -/
theorem readNumber_toDigits (n : Nat) {rest : List Char} (h : EndsNumber rest) :
    readNumber (Nat.toDigits 10 n ++ rest) = some (n, rest) := by
  have hdigits := Number.isDigits_toDigits n
  have hstop : rest.takeWhile Char.isDigit = [] ∧ rest.dropWhile Char.isDigit = rest := by
    cases rest with
    | nil => exact ⟨rfl, rfl⟩
    | cons c rest => simp [h c rfl]
  have hnone : ¬ (Nat.toDigits 10 n = [] ∨
      (Nat.toDigits 10 n).head? = some '0' ∧ Nat.toDigits 10 n ≠ ['0']) := by
    rintro (hnil | ⟨hhead, hne⟩)
    · exact Nat.toDigits_ne_nil hnil
    · exact hne (toDigits_eq_zero_of_head hhead)
  simp only [readNumber, List.takeWhile_append_of_pos hdigits,
    List.dropWhile_append_of_pos hdigits, hstop, List.append_nil, if_neg hnone,
    Nat.ofDigitChars_ten_toDigits]

/-! ## White space and marks -/

theorem skip_lineStart (level : Nat) (rest : List Char) :
    skip (lineStart level ++ rest) = skip rest := by
  have hspaces : ∀ c ∈ lineStart level, isSpace c = true := by
    intro c hc
    rcases List.mem_cons.mp hc with rfl | hc
    · rfl
    · rw [List.eq_of_mem_replicate hc]
      rfl
  rw [skip, skip, List.dropWhile_append_of_pos hspaces]

theorem skip_blank (rest : List Char) : skip (' ' :: rest) = skip rest := rfl

theorem skip_cons {c : Char} (h : isSpace c = false) (rest : List Char) :
    skip (c :: rest) = c :: rest := by
  rw [skip, List.dropWhile_cons_of_neg (by simp [h])]

/-- White space in front of a mark does not matter. -/
theorem readMark_congr {s s' : List Char} (h : skip s = skip s') (mark : Char) :
    readMark mark s = readMark mark s' := by
  rw [readMark, readMark, h]

theorem readMark_self {mark : Char} (h : isSpace mark = false) (rest : List Char) :
    readMark mark (mark :: rest) = some rest := by
  simp [readMark, skip_cons h]

theorem readMark_of_ne {mark c : Char} (hc : isSpace c = false) (hne : c ≠ mark)
    (rest : List Char) : readMark mark (c :: rest) = none := by
  simp [readMark, skip_cons hc, hne]

/-- White space in front of a value does not matter. -/
theorem readValue_congr {s s' : List Char} (h : skip s = skip s') (n : Nat) :
    readValue n s = readValue n s' := by
  cases n with
  | zero => rfl
  | succ n => simp only [readValue, h]

/-! ## Documents -/

/-- All documents are made of numbers, texts, arrays of documents and objects of documents. -/
theorem induct {P : Json → Prop} (hnumber : ∀ n, P (.number n)) (htext : ∀ s, P (.text s))
    (harray : ∀ items, (∀ item ∈ items, P item) → P (.array items))
    (hobject : ∀ members, (∀ member ∈ members, P member.2) → P (.object members)) :
    ∀ j, P j :=
  @Json.rec P (fun items => ∀ item ∈ items, P item)
    (fun members => ∀ member ∈ members, P member.2) (fun member => P member.2)
    hnumber htext (fun items => harray items) (fun members => hobject members)
    (fun _ h => nomatch h) (fun _ _ hitem hrest => List.forall_mem_cons.mpr ⟨hitem, hrest⟩)
    (fun _ h => nomatch h) (fun _ _ hmember hrest => List.forall_mem_cons.mpr ⟨hmember, hrest⟩)
    (fun _ _ hvalue => hvalue)

/-- A document is read back, at whatever level it is written and whatever follows it. -/
def IsRead (j : Json) : Prop :=
  ∀ level n rest, (j.write level).length ≤ n → EndsNumber rest →
    readValue n (j.write level ++ rest) = some (j, rest)

/-- A number begins with a digit, which is neither white space nor a mark. -/
theorem toDigits_eq_cons (n : Nat) : ∃ first digits, Nat.toDigits 10 n = first :: digits ∧
    isSpace first = false ∧ ∀ mark, mark.isDigit = false → first ≠ mark := by
  obtain ⟨first, digits, hdigits⟩ :=
    List.exists_cons_of_ne_nil (Nat.toDigits_ne_nil (n := n) (b := 10))
  have hdigit : first.isDigit = true := by
    refine Number.isDigits_toDigits n first ?_
    rw [hdigits]
    exact List.mem_cons_self
  have hmark : ∀ mark : Char, mark.isDigit = false → first ≠ mark := by
    rintro mark hmark rfl
    rw [hmark] at hdigit
    cases hdigit
  refine ⟨first, digits, hdigits, ?_, hmark⟩
  simp [isSpace, hmark]

theorem isRead_number (number : Nat) : IsRead (.number number) := by
  intro level n rest hlength hrest
  rw [write] at hlength ⊢
  obtain ⟨first, digits, hdigits, hspace, hmark⟩ := toDigits_eq_cons number
  have hquote := hmark '"' (by decide)
  have hbracket := hmark '[' (by decide)
  have hbrace := hmark '\x7b' (by decide)
  have hread := readNumber_toDigits number hrest
  rw [hdigits] at hlength hread ⊢
  obtain ⟨m, rfl⟩ : ∃ m, n = m + 1 := ⟨n - 1, by rw [List.length_cons] at hlength; omega⟩
  rw [List.cons_append] at hread ⊢
  simp only [readValue, skip_cons hspace, if_neg hquote, if_neg hbracket, if_neg hbrace, hread,
    Option.map_some]

theorem length_quote (s : List Char) : (quote s).length = (s.flatMap escape).length + 2 := by
  simp [quote]

theorem isRead_text (s : String) : IsRead (.text s) := by
  intro level n rest hlength hrest
  rw [write, quote] at hlength ⊢
  obtain ⟨m, rfl⟩ : ∃ m, n = m + 1 := ⟨n - 1, by simp at hlength; omega⟩
  have hquoted : (s.toList.flatMap escape).length < m := by
    rw [List.cons_append, List.length_cons, List.length_append, List.length_singleton] at hlength
    omega
  rw [List.cons_append, List.cons_append, List.append_assoc, readValue, skip_cons (by decide)]
  simp only [if_pos, List.singleton_append, readQuoted_escape hquoted, Option.map_some,
    String.ofList_toList]

/-- Behind an item or a member there is a comma or a new line. -/
theorem endsNumber_writeItems (level : Nat) (items : List Json) (k : Nat) (rest : List Char) :
    EndsNumber (writeItems level items ++ (lineStart k ++ rest)) := by
  cases items with
  | nil => exact endsNumber_cons (c := '\n') (by decide) _
  | cons item items => exact endsNumber_cons (c := ',') (by decide) _

theorem endsNumber_writeMembers (level : Nat) (members : List (String × Json)) (k : Nat)
    (rest : List Char) : EndsNumber (writeMembers level members ++ (lineStart k ++ rest)) := by
  cases members with
  | nil => exact endsNumber_cons (c := '\n') (by decide) _
  | cons member members => exact endsNumber_cons (c := ',') (by decide) _

/-- A written document does not look like the end of an array. -/
theorem readMark_bracket_write (level : Nat) (j : Json) (rest : List Char) :
    readMark ']' (j.write level ++ rest) = none := by
  cases j with
  | number number =>
      obtain ⟨first, digits, hdigits, hspace, hmark⟩ := toDigits_eq_cons number
      rw [write, hdigits]
      exact readMark_of_ne hspace (hmark ']' (by decide)) _
  | text s => exact readMark_of_ne (c := '"') (by decide) (by decide) _
  | array items => cases items <;> exact readMark_of_ne (c := '[') (by decide) (by decide) _
  | object members =>
      cases members <;> exact readMark_of_ne (c := '\x7b') (by decide) (by decide) _

/-- The items behind the first one are read back, up to the bracket. -/
theorem readItems_writeItems {items : List Json} (h : ∀ item ∈ items, IsRead item)
    (level k : Nat) {n : Nat} (hlength : (writeItems level items).length < n) (rest : List Char) :
    readItems n (writeItems level items ++ (lineStart k ++ ']' :: rest)) = some (items, rest) := by
  induction items generalizing n with
  | nil =>
      obtain ⟨m, rfl⟩ : ∃ m, n = m + 1 := ⟨n - 1, by omega⟩
      rw [writeItems, List.nil_append, readItems, readMark_congr (skip_lineStart k _),
        readMark_self (by decide)]
  | cons item items ih =>
      obtain ⟨hitem, hitems⟩ := List.forall_mem_cons.mp h
      obtain ⟨m, rfl⟩ : ∃ m, n = m + 1 := ⟨n - 1, by omega⟩
      rw [writeItems] at hlength ⊢
      simp only [List.cons_append, List.append_assoc, List.length_cons, List.length_append]
        at hlength ⊢
      have hfirst := hitem level m _ (by omega) (endsNumber_writeItems level items k (']' :: rest))
      rw [readItems, readMark_of_ne (by decide) (by decide), readMark_self (by decide)]
      simp only [Option.bind_eq_bind, Option.bind_some]
      rw [readValue_congr (skip_lineStart level _), hfirst, Option.bind_some,
        ih hitems (by omega), Option.bind_some]
      rfl

theorem readName_quote {n : Nat} {name : String} {level : Nat}
    (hlength : (name.toList.flatMap escape).length < n) (rest : List Char) :
    readName n (lineStart level ++ (quote name.toList ++ (':' :: ' ' :: rest))) =
      some (name, ' ' :: rest) := by
  rw [quote, List.cons_append, List.cons_append, List.append_assoc, readName,
    readMark_congr (skip_lineStart level _), readMark_self (by decide), List.singleton_append]
  simp only [Option.bind_eq_bind, Option.bind_some]
  rw [readQuoted_escape hlength, Option.bind_some, readMark_self (by decide), Option.bind_some,
    String.ofList_toList]
  rfl

/-- The members behind the first one are read back, up to the brace. -/
theorem readMembers_writeMembers {members : List (String × Json)}
    (h : ∀ member ∈ members, IsRead member.2) (level k : Nat) {n : Nat}
    (hlength : (writeMembers level members).length < n) (rest : List Char) :
    readMembers n (writeMembers level members ++ (lineStart k ++ '\x7d' :: rest)) =
      some (members, rest) := by
  induction members generalizing n with
  | nil =>
      obtain ⟨m, rfl⟩ : ∃ m, n = m + 1 := ⟨n - 1, by omega⟩
      rw [writeMembers, List.nil_append, readMembers, readMark_congr (skip_lineStart k _),
        readMark_self (by decide)]
  | cons member members ih =>
      obtain ⟨name, value⟩ := member
      obtain ⟨hvalue, hmembers⟩ := List.forall_mem_cons.mp h
      obtain ⟨m, rfl⟩ : ∃ m, n = m + 1 := ⟨n - 1, by omega⟩
      rw [writeMembers] at hlength ⊢
      simp only [List.cons_append, List.append_assoc, List.length_cons, List.length_append,
        List.nil_append, length_quote] at hlength ⊢
      have hfirst := hvalue level m _ (show (value.write level).length ≤ m by omega)
        (endsNumber_writeMembers level members k ('\x7d' :: rest))
      rw [readMembers, readMark_of_ne (by decide) (by decide), readMark_self (by decide)]
      simp only [Option.bind_eq_bind, Option.bind_some]
      rw [readName_quote (by omega), Option.bind_some,
        readValue_congr (skip_blank _), hfirst, Option.bind_some, ih hmembers (by omega),
        Option.bind_some]
      rfl

theorem isRead_array {items : List Json} (h : ∀ item ∈ items, IsRead item) :
    IsRead (.array items) := by
  intro level n rest hlength hrest
  obtain ⟨m, rfl⟩ : ∃ m, n = m + 1 := ⟨n - 1, by cases items <;> simp [write] at hlength <;> omega⟩
  cases items with
  | nil =>
      rw [write, List.cons_append, readValue, skip_cons (by decide)]
      have hclose : readMark ']' (']' :: rest) = some rest := readMark_self (by decide) rest
      simp only [List.cons_append, List.nil_append, hclose]
      rfl
  | cons item items =>
      obtain ⟨hitem, hitems⟩ := List.forall_mem_cons.mp h
      rw [write] at hlength ⊢
      simp only [List.cons_append, List.append_assoc, List.length_cons, List.length_append,
        List.nil_append] at hlength ⊢
      have hfirst := hitem (level + 1) m _ (by omega)
        (endsNumber_writeItems (level + 1) items level (']' :: rest))
      have hmore : readItems m (writeItems (level + 1) items ++ (lineStart level ++ ']' :: rest)) =
          some (items, rest) := readItems_writeItems hitems (level + 1) level (by omega) rest
      rw [readValue, skip_cons (by decide)]
      simp only [readMark_congr (skip_lineStart (level + 1) _), readMark_bracket_write]
      rw [readValue_congr (skip_lineStart (level + 1) _), hfirst]
      simp only [Option.bind_eq_bind, Option.bind_some, hmore]
      rfl

theorem isRead_object {members : List (String × Json)}
    (h : ∀ member ∈ members, IsRead member.2) : IsRead (.object members) := by
  intro level n rest hlength hrest
  obtain ⟨m, rfl⟩ : ∃ m, n = m + 1 :=
    ⟨n - 1, by cases members <;> simp [write] at hlength <;> omega⟩
  cases members with
  | nil =>
      rw [write, List.cons_append, readValue, skip_cons (by decide)]
      have hclose : readMark '\x7d' ('\x7d' :: rest) = some rest := readMark_self (by decide) rest
      simp only [List.cons_append, List.nil_append, hclose]
      rfl
  | cons member members =>
      obtain ⟨name, value⟩ := member
      obtain ⟨hvalue, hmembers⟩ := List.forall_mem_cons.mp h
      rw [write] at hlength ⊢
      simp only [List.cons_append, List.append_assoc, List.length_cons, List.length_append,
        List.nil_append, length_quote] at hlength ⊢
      have hfirst := hvalue (level + 1) m _ (show (value.write (level + 1)).length ≤ m by omega)
        (endsNumber_writeMembers (level + 1) members level ('\x7d' :: rest))
      have hmore : readMembers m (writeMembers (level + 1) members
          ++ (lineStart level ++ '\x7d' :: rest)) = some (members, rest) :=
        readMembers_writeMembers hmembers (level + 1) level (by omega) rest
      have hopen : ∀ more, readMark '\x7d' (lineStart (level + 1) ++ (quote name.toList ++ more)) =
          none := by
        intro more
        rw [readMark_congr (skip_lineStart (level + 1) _)]
        exact readMark_of_ne (c := '"') (by decide) (by decide) _
      rw [readValue, skip_cons (by decide)]
      simp only [hopen]
      rw [readName_quote (by omega)]
      simp only [Option.bind_eq_bind, Option.bind_some]
      rw [readValue_congr (skip_blank _), hfirst, Option.bind_some, hmore]
      rfl

/-- **A document is read back**, at whatever level it is written and whatever follows it. -/
theorem isRead (j : Json) : IsRead j := by
  induction j using induct with
  | hnumber number => exact isRead_number number
  | htext s => exact isRead_text s
  | harray items h => exact isRead_array h
  | hobject members h => exact isRead_object h

/-- **A document can be told from its text**, also if white space follows. -/
theorem read?_render (j : Json) (blank : String) (h : blank.toList.all isSpace = true) :
    read? (j.render ++ blank) = some j := by
  rw [List.all_eq_true] at h
  have hblank : EndsNumber blank.toList := by
    intro c hc
    have hspace := h c (List.mem_of_mem_head? hc)
    simp only [isSpace, Bool.or_eq_true, decide_eq_true_eq] at hspace
    rcases hspace with ((rfl | rfl) | rfl) | rfl <;> rfl
  have hlist : (j.render ++ blank).toList = j.write 0 ++ blank.toList := by
    rw [String.toList_append, render, String.toList_ofList]
  have hlength : (j.write 0).length ≤ (j.render ++ blank).length := by
    rw [← String.length_toList, hlist, List.length_append]
    omega
  have hskip : skip blank.toList = [] := List.dropWhile_eq_nil_iff.mpr h
  rw [read?, hlist, isRead j 0 _ _ hlength hblank]
  simp only [hskip, if_true]

/-- A text is no document if it begins with a character that begins no value. -/
theorem read?_eq_none {s : String} {c : Char} (h : s.toList.head? = some c)
    (hspace : isSpace c = false) (hdigit : c.isDigit = false)
    (hmark : c ∉ ['"', '[', '\x7b']) : read? s = none := by
  obtain ⟨rest, hs⟩ := List.head?_eq_some_iff.mp h
  obtain ⟨n, hlength⟩ : ∃ n, s.length = n + 1 :=
    ⟨rest.length, by rw [← String.length_toList, hs, List.length_cons]⟩
  simp only [List.mem_cons, List.not_mem_nil, or_false, not_or] at hmark
  have hnumber : readNumber (c :: rest) = none := by simp [readNumber, hdigit]
  have hvalue : readValue (n + 1) (c :: rest) = none := by
    rw [readValue, skip_cons hspace]
    simp only [if_neg hmark.1, if_neg hmark.2.1, if_neg hmark.2.2, hnumber, Option.map_none]
  rw [read?, hs, hlength, hvalue]

/-! ## The characters of a document -/

/-- A text is plain ASCII. -/
def IsAscii (s : List Char) : Prop := ∀ c ∈ s, c.toNat < 0x80

instance (s : List Char) : Decidable (IsAscii s) :=
  List.decidableBAll (fun c : Char => c.toNat < 0x80) s

theorem isAscii_nil : IsAscii [] := fun _ h => nomatch h

theorem isAscii_cons {c : Char} {s : List Char} (hc : c.toNat < 0x80) (h : IsAscii s) :
    IsAscii (c :: s) := List.forall_mem_cons.mpr ⟨hc, h⟩

theorem isAscii_append {s t : List Char} (hs : IsAscii s) (ht : IsAscii t) : IsAscii (s ++ t) :=
  List.forall_mem_append.mpr ⟨hs, ht⟩

theorem isAscii_unitEscape {n : Nat} (h : n < 0x10000) : IsAscii (unitEscape n) := by
  have hdigit : ∀ d < 16, (Nat.digitChar d).toNat < 0x80 := by decide
  rw [unitEscape, hexadecimal_four h]
  refine isAscii_cons (by decide) (isAscii_cons (by decide) ?_)
  refine isAscii_cons (hdigit _ (by omega)) (isAscii_cons (hdigit _ (by omega)) ?_)
  exact isAscii_cons (hdigit _ (by omega)) (isAscii_cons (hdigit _ (by omega)) isAscii_nil)

theorem isAscii_codeEscape (c : Char) : IsAscii (codeEscape c.toNat) := by
  have hvalid : c.toNat.isValidChar := c.valid
  unfold Nat.isValidChar at hvalid
  unfold codeEscape
  split
  · exact isAscii_unitEscape (by omega)
  · exact isAscii_append (isAscii_unitEscape (by omega)) (isAscii_unitEscape (by omega))

theorem isAscii_escape (c : Char) : IsAscii (escape c) := by
  unfold escape
  split
  · next h => rcases h with rfl | rfl <;> decide
  split
  · decide
  split
  · decide
  split
  · decide
  split
  · decide
  split
  · decide
  split
  · next hprintable =>
      have hle : c.toNat ≤ '~'.toNat := hprintable.2
      exact isAscii_cons (Nat.lt_of_le_of_lt hle (by decide)) isAscii_nil
  · exact isAscii_codeEscape c

theorem isAscii_quote (s : List Char) : IsAscii (quote s) := by
  refine isAscii_append (isAscii_cons (by decide) ?_) (by decide)
  intro c hc
  obtain ⟨d, -, hc⟩ := List.mem_flatMap.mp hc
  exact isAscii_escape d c hc

theorem isAscii_lineStart (level : Nat) : IsAscii (lineStart level) := by
  refine isAscii_cons (by decide) fun c hc => ?_
  rw [List.eq_of_mem_replicate hc]
  decide

theorem isAscii_writeItems {items : List Json}
    (h : ∀ item ∈ items, ∀ level, IsAscii (item.write level)) (level : Nat) :
    IsAscii (writeItems level items) := by
  induction items with
  | nil => exact isAscii_nil
  | cons item items ih =>
      obtain ⟨hitem, hitems⟩ := List.forall_mem_cons.mp h
      rw [writeItems]
      refine isAscii_append (isAscii_append (isAscii_cons (by decide) ?_) (hitem level)) (ih hitems)
      exact isAscii_lineStart level

theorem isAscii_writeMembers {members : List (String × Json)}
    (h : ∀ member ∈ members, ∀ level, IsAscii (member.2.write level)) (level : Nat) :
    IsAscii (writeMembers level members) := by
  induction members with
  | nil => exact isAscii_nil
  | cons member members ih =>
      obtain ⟨name, value⟩ := member
      obtain ⟨hvalue, hmembers⟩ := List.forall_mem_cons.mp h
      have hname : IsAscii (lineStart level ++ quote name.toList ++ [':', ' ']) :=
        isAscii_append (isAscii_append (isAscii_lineStart level) (isAscii_quote _)) (by decide)
      rw [writeMembers]
      exact isAscii_append (isAscii_append (isAscii_cons (by decide) hname) (hvalue level))
        (ih hmembers)

/-- **A document is plain ASCII.** -/
theorem isAscii_write (j : Json) : ∀ level, IsAscii (j.write level) := by
  induction j using induct with
  | hnumber number =>
      intro level c hc
      rw [write] at hc
      have hdigit := Number.toNat_of_isDigit (Number.isDigits_toDigits number c hc)
      omega
  | htext s => exact fun _ => isAscii_quote s.toList
  | harray items h =>
      intro level
      cases items with
      | nil =>
          rw [write]
          decide
      | cons item items =>
          obtain ⟨hitem, hitems⟩ := List.forall_mem_cons.mp h
          have hfirst : IsAscii (lineStart (level + 1) ++ item.write (level + 1)) :=
            isAscii_append (isAscii_lineStart _) (hitem _)
          rw [write]
          exact isAscii_append (isAscii_append (isAscii_append (isAscii_cons (by decide) hfirst)
            (isAscii_writeItems hitems _)) (isAscii_lineStart _)) (by decide)
  | hobject members h =>
      intro level
      cases members with
      | nil =>
          rw [write]
          decide
      | cons member members =>
          obtain ⟨name, value⟩ := member
          obtain ⟨hvalue, hmembers⟩ := List.forall_mem_cons.mp h
          have hname : IsAscii (lineStart (level + 1) ++ quote name.toList ++ [':', ' ']) :=
            isAscii_append (isAscii_append (isAscii_lineStart _) (isAscii_quote _)) (by decide)
          have hfirst := isAscii_append hname (hvalue (level + 1))
          rw [write]
          exact isAscii_append (isAscii_append (isAscii_append (isAscii_cons (by decide) hfirst)
            (isAscii_writeMembers hmembers _)) (isAscii_lineStart _)) (by decide)

end BuildSpec.Text.Json
