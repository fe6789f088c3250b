import BuildSpec.Proofs.Except
import BuildSpec.Proofs.Number.Numeral
import BuildSpec.Schema.Issue
import BuildSpec.Schema.ProjectSpec
import Mathlib.Data.List.Lex
import Mathlib.Data.String.Basic

/-!
# The order of schema issues

Issues are told in the order of their places.  A place is a row of tokens, which are texts, so that
keys come in the order of their texts, and an element comes before its parts.  Positions in a list
are tokens too, and are compared as the texts of their numerals:

* `before_iff_path_lt` — issues of different places are told in the order of their paths;
* `filter_path_sort` — issues of one place keep the order in which they were found;
* `issues_in_order_of_places` — what this comes to for keys, positions and parts;
* `last_position_is_told_early` — in a list of eleven items, the last position is told too early.
-/

namespace BuildSpec.Schema

/-- Of two issues, the first one is told before the second one, wherever they are told. -/
def Before (told : List Issue) (x y : Issue) : Prop := [x, y].Sublist told ∧ ¬ [y, x].Sublist told

/-! ## Paths -/

/-- Where two paths part, their tokens decide. -/
theorem append_cons_lt_iff {way s t : List String} {a b : String} (hne : a ≠ b) :
    way ++ a :: s < way ++ b :: t ↔ a < b := by
  induction way with
  | nil => simp [List.cons_lt_cons_iff, hne]
  | cons token way ih => simpa [List.cons_lt_cons_iff] using ih

/-- An element comes before its parts. -/
theorem lt_append_cons (way t : List String) (b : String) : way < way ++ b :: t := by
  have h : way ++ [] < way ++ b :: t := List.append_left_lt (List.nil_lt_cons b t)
  rwa [List.append_nil] at h

namespace Issue

theorem notAfter_iff {i j : Issue} : i.notAfter j = true ↔ i.path ≤ j.path := by
  rw [← not_lt]
  simp [notAfter]

theorem notAfter_trans (i j k : Issue) (hij : i.notAfter j = true) (hjk : j.notAfter k = true) :
    i.notAfter k = true :=
  notAfter_iff.mpr ((notAfter_iff.mp hij).trans (notAfter_iff.mp hjk))

theorem notAfter_total (i j : Issue) : (i.notAfter j || j.notAfter i) = true := by
  rw [Bool.or_eq_true, notAfter_iff, notAfter_iff]
  exact le_total _ _

end Issue

/-! ## The order -/

variable {raw : List Issue} {x y : Issue}

theorem path_le_of_sublist_sort (h : [x, y].Sublist (raw.mergeSort Issue.notAfter)) :
    x.path ≤ y.path := by
  have hsorted := List.pairwise_mergeSort Issue.notAfter_trans Issue.notAfter_total raw
  have hpair := (hsorted.sublist h)
  exact Issue.notAfter_iff.mp (List.rel_of_pairwise_cons hpair (List.mem_singleton_self y))

/-- Two issues that are told are told one after the other. -/
theorem sublist_or_sublist {told : List Issue} (hx : x ∈ told) (hy : y ∈ told) (hne : x ≠ y) :
    [x, y].Sublist told ∨ [y, x].Sublist told := by
  obtain ⟨front, back, rfl⟩ := List.append_of_mem hx
  rcases List.mem_append.mp hy with hfront | hback
  · exact Or.inr ((List.singleton_sublist.mpr hfront).append
      (List.singleton_sublist.mpr List.mem_cons_self))
  · have hlater : y ∈ back := (List.mem_cons.mp hback).resolve_left (Ne.symm hne)
    exact Or.inl ((List.singleton_sublist.mpr hlater).cons_cons x |>.trans
      (List.sublist_append_right front _))

/-- **Issues of different places are told in the order of their paths.** -/
theorem before_iff_path_lt (hx : x ∈ raw) (hy : y ∈ raw) (hne : x.path ≠ y.path) :
    Before (raw.mergeSort Issue.notAfter) x y ↔ x.path < y.path := by
  constructor
  · intro hbefore
    exact lt_of_le_of_ne (path_le_of_sublist_sort hbefore.1) hne
  · intro hlt
    have hnot : ¬ [y, x].Sublist (raw.mergeSort Issue.notAfter) :=
      fun h => not_lt_of_ge (path_le_of_sublist_sort h) hlt
    have hxy : x ≠ y := fun h => hne (congrArg Issue.path h)
    have htold : [x, y].Sublist (raw.mergeSort Issue.notAfter) ∨ _ :=
      sublist_or_sublist (List.mem_mergeSort.mpr hx) (List.mem_mergeSort.mpr hy) hxy
    exact ⟨htold.resolve_right hnot, hnot⟩

/-- **Issues of one place keep the order in which they were found.** -/
theorem filter_path_sort (raw : List Issue) (way : List String) :
    (raw.mergeSort Issue.notAfter).filter (·.path = way) = raw.filter (·.path = way) := by
  have hsame : (raw.filter (·.path = way)).Pairwise fun i j => i.notAfter j = true := by
    refine List.pairwise_of_forall_mem_list fun i hi j hj => ?_
    rw [Issue.notAfter_iff]
    have hi := (List.mem_filter.mp hi).2
    have hj := (List.mem_filter.mp hj).2
    simp only [decide_eq_true_eq] at hi hj
    rw [hi, hj]
  have hsub := List.sublist_mergeSort Issue.notAfter_trans Issue.notAfter_total hsame
    List.filter_sublist
  have hkept := hsub.filter (·.path = way)
  rw [List.filter_filter] at hkept
  simp only [Bool.and_self] at hkept
  have hperm := (List.mergeSort_perm raw Issue.notAfter).filter (·.path = way)
  exact (hkept.eq_of_length hperm.length_eq.symm).symm

/-! ## Keys, positions and parts -/

/-- The number that as many first digits of `j` stand for as `i` has. -/
def leadingPart (i j : Nat) : Nat := j / 10 ^ ((toString j).length - (toString i).length)

/-- Two positions in a list are told in the order of their numerals. -/
theorem before_iff_le_leadingPart {way s t : List String} {i j : Nat} (hx : x ∈ raw) (hy : y ∈ raw)
    (hxpath : x.path = way ++ toString i :: s) (hypath : y.path = way ++ toString j :: t)
    (hij : i < j) :
    (Before (raw.mergeSort Issue.notAfter) x y ↔ i ≤ leadingPart i j) ∧
      (Before (raw.mergeSort Issue.notAfter) y x ↔ leadingPart i j < i) := by
  have horder : toString i < toString j ↔ i ≤ leadingPart i j := Number.toString_lt_toString_iff hij
  have hne : toString i ≠ toString j := fun h => Nat.ne_of_lt hij (Number.eq_of_toString_eq h)
  have hpath : x.path ≠ y.path := by
    rw [hxpath, hypath]
    intro hsame
    exact hne (List.cons.inj (List.append_cancel_left hsame)).1
  rw [before_iff_path_lt hx hy hpath, before_iff_path_lt hy hx (Ne.symm hpath), hxpath, hypath,
    append_cons_lt_iff hne, append_cons_lt_iff (Ne.symm hne)]
  refine ⟨horder, ?_⟩
  rw [← not_le (a := i), ← horder, not_lt]
  exact ⟨le_of_lt, fun hle => lt_of_le_of_ne hle (Ne.symm hne)⟩

/-- What the order of places comes to: `told` are the issues `raw`, put in this order. -/
structure InOrderOfPlaces (raw told : List Issue) : Prop where
  perm : told.Perm raw
  /-- Where two places part at two keys, the keys decide, as texts. -/
  keys : ∀ x ∈ raw, ∀ y ∈ raw, ∀ way a b s t, x.path = way ++ a :: s → y.path = way ++ b :: t →
    a < b → Before told x y
  /-- Where two places part at two positions of a list, the smaller one comes first if it does not
  exceed as many first digits of the larger one.  Positions with as many digits come in order. -/
  positions : ∀ x ∈ raw, ∀ y ∈ raw, ∀ way i j s t, x.path = way ++ toString i :: s →
    y.path = way ++ toString j :: t → i < j →
      (Before told x y ↔ i ≤ leadingPart i j) ∧ (Before told y x ↔ leadingPart i j < i)
  /-- An element comes before its parts. -/
  parts : ∀ x ∈ raw, ∀ y ∈ raw, ∀ b t, y.path = x.path ++ b :: t → Before told x y
  /-- The issues of one place stay in the order in which they were found. -/
  samePlace : ∀ way, told.filter (·.path = way) = raw.filter (·.path = way)

theorem inOrderOfPlaces_sort (raw : List Issue) :
    InOrderOfPlaces raw (raw.mergeSort Issue.notAfter) where
  perm := List.mergeSort_perm raw Issue.notAfter
  keys x hx y hy way a b s t hxpath hypath hab := by
    have hlt : x.path < y.path := by
      rw [hxpath, hypath]
      exact (append_cons_lt_iff (ne_of_lt hab)).mpr hab
    exact (before_iff_path_lt hx hy (ne_of_lt hlt)).mpr hlt
  positions x hx y hy way i j s t hxpath hypath hij :=
    before_iff_le_leadingPart hx hy hxpath hypath hij
  parts x hx y hy b t hypath := by
    have hlt : x.path < y.path := hypath ▸ lt_append_cons x.path t b
    exact (before_iff_path_lt hx hy (ne_of_lt hlt)).mpr hlt
  samePlace way := filter_path_sort raw way

/-- **Issues are told in the order of their places.**  A check of a mapping fails only where the
issues that it finds cannot be told; otherwise it tells all of them and no others, in the order of
their places. -/
theorem issues_in_order_of_places (document : Document) (entries : Entries) :
    (∀ fault, document.issues (.map entries) = .error fault ↔
        document.rawIssues (.map entries) = .error fault) ∧
      ∀ raw, document.rawIssues (.map entries) = .ok raw →
        ∃ told, document.issues (.map entries) = .ok told ∧ InOrderOfPlaces raw told := by
  constructor
  · intro fault
    cases hraw : document.rawIssues (.map entries) <;>
      simp [Document.issues, hraw, Functor.map, Except.map]
  · intro raw hraw
    exact ⟨_, by rw [Document.issues, hraw]; rfl, inOrderOfPlaces_sort raw⟩

/-- A spec with eleven file groups, the third and the last of which are no texts. -/
def elevenGroups : Entries :=
  [(.text "fileGroups", .list (
    [.text "A", .text "B", .null, .text "D", .text "E", .text "F", .text "G", .text "H", .text "I",
      .text "J", .null]))]

/-- The third file group is found before the last one. -/
theorem rawIssues_elevenGroups :
    projectSpec.rawIssues (.map elevenGroups) = .ok [
      ⟨["fileGroups", "2"], "None is not of type 'string'"⟩,
      ⟨["fileGroups", "10"], "None is not of type 'string'"⟩] := by
  decide +kernel

/-- What is wrong with the file groups is told in the order of places. -/
theorem eleven_groups_in_order :
    ∃ told, projectSpec.issues (.map elevenGroups) = .ok told ∧
      InOrderOfPlaces [⟨["fileGroups", "2"], "None is not of type 'string'"⟩,
        ⟨["fileGroups", "10"], "None is not of type 'string'"⟩] told :=
  (issues_in_order_of_places projectSpec elevenGroups).2 _ rawIssues_elevenGroups

/-- The last position is told before the third one. -/
theorem last_position_is_told_early :
    projectSpec.issues (.map elevenGroups) = .ok [
      ⟨["fileGroups", "10"], "None is not of type 'string'"⟩,
      ⟨["fileGroups", "2"], "None is not of type 'string'"⟩] := by
  have hlate : Issue.notAfter ⟨["fileGroups", "2"], "None is not of type 'string'"⟩
      ⟨["fileGroups", "10"], "None is not of type 'string'"⟩ = false := by
    decide
  rw [Document.issues, rawIssues_elevenGroups]
  simp [Functor.map, Except.map, List.mergeSort, hlate]

end BuildSpec.Schema
