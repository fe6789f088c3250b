import BuildSpec.Text.Search
import Mathlib.Data.List.Basic

/-!
# Lines

A text is cut into lines at its line feeds.  Texts that are put together with line feeds between
them or behind them come back as the lines, if they hold no line feeds themselves:

* `parts_append` — what is cut at one separator can be cut on either side of it first;
* `lines_join` — texts that each end with a line feed;
* `lines_intercalate_eq_iff` — texts with line feeds between them.
-/

namespace BuildSpec.Text

variable {separator : Char} {s t : String}

/-! ## Parts -/

/-- Cutting at separators is what the list library calls splitting. -/
theorem splitAt_eq_splitOn (separator : Char) (text : List Char) :
    splitAt separator text = text.splitOn separator := by
  induction text with
  | nil => rfl
  | cons c rest ih =>
      rw [splitAt, List.splitOn_cons_eq_if_modifyHead, ih]
      by_cases hc : c = separator
      · simp [hc]
      · cases hrest : rest.splitOn separator with
        | nil => exact absurd hrest (List.splitOn_ne_nil separator rest)
        | cons part parts => simp [hc]

theorem parts_eq (separator : Char) (s : String) :
    parts separator s = (s.toList.splitOn separator).map String.ofList := by
  rw [parts, splitAt_eq_splitOn]

theorem parts_ne_nil (separator : Char) (s : String) : parts separator s ≠ [] := by
  simp [parts_eq]

theorem parts_of_notMem (h : separator ∉ s.toList) : parts separator s = [s] := by
  rw [parts_eq, List.splitOn_eq_singleton h, List.map_singleton, String.ofList_toList]

/-- What stands on either side of a separator is cut on its own. -/
theorem parts_append (separator : Char) (s t : String) :
    parts separator (s ++ String.singleton separator ++ t) =
      parts separator s ++ parts separator t := by
  rw [parts_eq, parts_eq, parts_eq, ← List.map_append, ← List.splitOn_append_cons_self]
  simp

theorem splitOn_append_of_notMem {front : List Char} (h : separator ∉ front) (back : List Char) :
    (front ++ back).splitOn separator = (back.splitOn separator).modifyHead (front ++ ·) := by
  induction front with
  | nil => exact (congrFun List.modifyHead_id _).symm
  | cons c front ih =>
      obtain ⟨hc, hfront⟩ := not_or.mp (mt List.mem_cons.mpr h)
      rw [List.cons_append, List.splitOn_cons_eq_if_modifyHead, ih hfront]
      cases back.splitOn separator <;> simp [Ne.symm hc]

/-- What stands in front of the first separator goes to the first part. -/
theorem parts_append_of_notMem (h : separator ∉ s.toList) {first : String} {rest : List String}
    (ht : parts separator t = first :: rest) : parts separator (s ++ t) = (s ++ first) :: rest := by
  rw [parts_eq] at ht
  obtain ⟨chars, others, hcut, rfl, rfl⟩ := List.map_eq_cons_iff.mp ht
  rw [parts_eq, String.toList_append, splitOn_append_of_notMem h, hcut]
  simp

theorem notMem_of_mem_splitAt {text part : List Char} (h : part ∈ splitAt separator text) :
    separator ∉ part := by
  induction text generalizing part with
  | nil =>
      rw [splitAt, List.mem_singleton] at h
      simp [h]
  | cons c rest ih =>
      rw [splitAt] at h
      split at h
      · rcases List.mem_cons.mp h with rfl | hlater
        · exact List.not_mem_nil
        · exact ih hlater
      · next hc =>
          cases hrest : splitAt separator rest with
          | nil =>
              rw [hrest, List.mem_singleton] at h
              simp [h, Ne.symm hc]
          | cons first others =>
              simp only [hrest] at h ih
              rcases List.mem_cons.mp h with rfl | hlater
              · have hfirst : separator ∉ first := ih List.mem_cons_self
                simp [hfirst, Ne.symm hc]
              · exact ih (List.mem_cons_of_mem _ hlater)

/-- No part holds a separator. -/
theorem notMem_of_mem_parts {part : String} (h : part ∈ parts separator s) :
    separator ∉ part.toList := by
  obtain ⟨chars, hmem, rfl⟩ := List.mem_map.mp h
  rw [String.toList_ofList]
  exact notMem_of_mem_splitAt hmem

/-! ## Lines -/

/-- The lines of a text.  Behind the last line feed there is no line. -/
def lines (s : String) : List String :=
  let all := parts '\n' s
  if all.getLast? = some "" then all.dropLast else all

theorem lines_empty : lines "" = [] := rfl

/-- The first line is cut off. -/
theorem lines_append (h : '\n' ∉ s.toList) (t : String) : lines (s ++ "\n" ++ t) = s :: lines t := by
  have hcut : parts '\n' (s ++ "\n" ++ t) = s :: parts '\n' t := by
    rw [← List.singleton_append, ← parts_of_notMem h]
    exact parts_append '\n' s t
  obtain ⟨first, rest, hparts⟩ := List.exists_cons_of_ne_nil (parts_ne_nil '\n' t)
  simp only [lines, hcut, hparts, List.getLast?_cons_cons, List.dropLast_cons_cons]
  split <;> rfl

/-- **Texts that each end with a line feed are lines.** -/
theorem lines_join {texts : List String} (h : ∀ l ∈ texts, '\n' ∉ l.toList) :
    lines (String.join (texts.map (· ++ "\n"))) = texts := by
  induction texts with
  | nil => exact lines_empty
  | cons l rest ih =>
      obtain ⟨hl, hrest⟩ := List.forall_mem_cons.mp h
      rw [List.map_cons, String.join_cons, lines_append hl, ih hrest]

/-- Texts with line feeds between them are cut one by one. -/
theorem parts_intercalate {texts : List String} (hne : texts ≠ []) :
    parts '\n' ("\n".intercalate texts) = texts.flatMap (parts '\n') := by
  induction texts with
  | nil => exact absurd rfl hne
  | cons l rest ih =>
      cases rest with
      | nil => simp
      | cons l' rest =>
          have hcut := parts_append '\n' l ("\n".intercalate (l' :: rest))
          rw [String.intercalate_cons_cons, List.flatMap_cons, ← ih (List.cons_ne_nil l' rest)]
          exact hcut

theorem mem_parts_of_mem_lines {l : String} (h : l ∈ lines s) : l ∈ parts '\n' s := by
  rw [lines] at h
  split at h
  · exact (List.dropLast_sublist _).subset h
  · exact h

/-- **Texts with line feeds between them are lines** exactly if they hold no line feeds. -/
theorem lines_intercalate_eq_iff {texts : List String} (hne : "" ∉ texts) :
    lines ("\n".intercalate texts) = texts ↔ ∀ l ∈ texts, '\n' ∉ l.toList := by
  constructor
  · intro h l hl
    rw [← h] at hl
    exact notMem_of_mem_parts (mem_parts_of_mem_lines hl)
  · intro h
    by_cases hnil : texts = []
    · rw [hnil]
      exact lines_empty
    · have hparts : parts '\n' ("\n".intercalate texts) = texts := by
        rw [parts_intercalate hnil, List.flatMap_congr (g := fun l => [l])]
        · exact List.flatMap_singleton' texts
        · exact fun l hl => parts_of_notMem (h l hl)
      have hlast : texts.getLast? ≠ some "" :=
        fun hlast => hne (List.mem_of_getLast? hlast)
      rw [lines, hparts, if_neg hlast]

end BuildSpec.Text
