import BuildSpec.Path
import BuildSpec.Proofs.Text.Lines
import Mathlib.Data.List.Lex
import Mathlib.Data.String.Basic

/-!
# The order of paths

Paths are compared name by name and not as texts, so that `a/b` comes before `a-b`.  A path that is
read has no slashes in its names, and among such paths no two different ones are equal in the
order:

* `isProper_ofString` — no name of a path that is read holds a slash;
* `components_injective` — such a path can be told from its components;
* `lt_of_notBefore` — so of two different paths that are read, one comes strictly before the other.
-/

namespace BuildSpec.Path

variable {p q : Path}

/-! ## Paths that are read -/

/-- No name of a path holds a slash. -/
def IsProper (p : Path) : Prop := ∀ name ∈ p.names, '/' ∉ name.toList

theorem isProper_ofString (s : String) : (ofString s).IsProper := by
  intro name hname
  have hpart : name ∈ Text.parts '/' s := (List.mem_filter.mp hname).1
  exact Text.notMem_of_mem_parts hpart

/-- A path lies below another one: it goes on where the other one ends, without a step back. -/
def IsBelow (p root : Path) : Prop :=
  p.slashes = root.slashes ∧ ∃ rest, rest ≠ [] ∧ ".." ∉ rest ∧ p.names = root.names ++ rest

theorem IsBelow.trans {r : Path} (hpq : p.IsBelow q) (hqr : q.IsBelow r) : p.IsBelow r := by
  obtain ⟨hslashes, rest, hne, hup, hnames⟩ := hpq
  obtain ⟨hslashes', rest', -, hup', hnames'⟩ := hqr
  refine ⟨hslashes.trans hslashes', rest' ++ rest, List.append_ne_nil_of_right_ne_nil rest' hne,
    ?_, ?_⟩
  · rw [List.mem_append, not_or]
    exact ⟨hup', hup⟩
  · rw [hnames, hnames', List.append_assoc]

/-! ## The order -/

/-- The slashes in front of a path are not a name. -/
theorem slash_mem_components (h : p.isAbsolute = true) :
    ∃ first ∈ p.components.head?, '/' ∈ first.toList := by
  have hslashes : p.slashes ≠ 0 := by simpa [isAbsolute] using h
  refine ⟨String.ofList (List.replicate p.slashes '/'), ?_, ?_⟩
  · rw [components, if_pos h]
    rfl
  · rw [String.toList_ofList]
    exact List.mem_replicate.mpr ⟨hslashes, rfl⟩

/-- A path whose components begin with slashes starts at the root. -/
theorem isAbsolute_of_components_eq (hp : p.IsProper) (hq : q.isAbsolute = true)
    (h : p.components = q.components) : p.isAbsolute = true := by
  obtain ⟨first, hfirst, hslash⟩ := slash_mem_components hq
  by_contra hrelative
  rw [← h, components, if_neg hrelative] at hfirst
  exact hp first (List.mem_of_mem_head? hfirst) hslash

/-- **A path can be told from its components.** -/
theorem components_injective (hp : p.IsProper) (hq : q.IsProper)
    (h : p.components = q.components) : p = q := by
  have hroot : p.isAbsolute = q.isAbsolute :=
    Bool.eq_iff_iff.mpr ⟨fun habs => isAbsolute_of_components_eq hq habs h.symm,
      fun habs => isAbsolute_of_components_eq hp habs h⟩
  obtain ⟨slashes, names⟩ := p
  obtain ⟨slashes', names'⟩ := q
  rw [components, components, ← hroot] at h
  by_cases habs : isAbsolute ⟨slashes, names⟩ = true
  · rw [if_pos habs, if_pos habs, List.cons.injEq] at h
    obtain ⟨hfirst, rfl⟩ := h
    have hcount := congrArg (fun s : String => s.toList.length) hfirst
    simp only [String.toList_ofList, List.length_replicate] at hcount
    rw [hcount]
  · rw [if_neg habs, if_neg habs] at h
    obtain rfl : slashes = 0 := by simpa [isAbsolute] using habs
    obtain rfl : slashes' = 0 := by simpa [isAbsolute] using hroot
    exact congrArg (Path.mk 0) h

theorem notBefore_iff : (!q.before p) = true ↔ p.components ≤ q.components := by
  rw [← not_lt]
  simp [before]

theorem notBefore_trans (p q r : Path) (hpq : (!q.before p) = true) (hqr : (!r.before q) = true) :
    (!r.before p) = true :=
  notBefore_iff.mpr ((notBefore_iff.mp hpq).trans (notBefore_iff.mp hqr))

theorem notBefore_total (p q : Path) : ((!q.before p) || (!p.before q)) = true := by
  rw [Bool.or_eq_true, notBefore_iff, notBefore_iff]
  exact le_total _ _

/-- Of two different paths, the one that does not come later comes first. -/
theorem lt_of_notBefore (hp : p.IsProper) (hq : q.IsProper) (hne : p ≠ q)
    (h : (!q.before p) = true) : p.components < q.components :=
  lt_of_le_of_ne (notBefore_iff.mp h) fun heq => hne (components_injective hp hq heq)

/-- The order of the components does not hold both ways. -/
instance : Std.Antisymm fun p q : Path => p.components < q.components where
  antisymm _ _ hpq hqp := absurd hqp (lt_asymm hpq)

instance : Std.Irrefl fun p q : Path => p.components < q.components where
  irrefl p := lt_irrefl p.components

end BuildSpec.Path
