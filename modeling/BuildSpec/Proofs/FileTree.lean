import BuildSpec.FileTree
import BuildSpec.Proofs.Path
import Mathlib.Data.List.Induction

/-!
# Walking through a file tree

On a disk, whatever has a name lies in a directory, and no name is that of the directory above.  A
tree with this property is sound; what a path leads to in it can be told from its entries alone:

* `walk_append` — a walk can be cut anywhere;
* `eq_of_walk`, `IsSound.walk_eq` — a walk without steps back leads to the entry under the names,
  if there is one;
* `IsSound.find?_below`, `IsSound.contains_below_iff` — so what lies below a directory is found by
  going on from it.
-/

namespace BuildSpec.FileTree

variable {t : FileTree} {place rest names found : List String}

/-- A tree as it may be on a disk: every entry lies in a directory, and names are neither steps back
nor hold slashes. -/
structure IsSound (t : FileTree) : Prop where
  above : ∀ e ∈ t.entries, e.1 ≠ [] → t.isDirectoryAt e.1.dropLast = true
  names : ∀ e ∈ t.entries, ∀ name ∈ e.1, name ≠ ".." ∧ '/' ∉ name.toList

/-! ## Entries -/

theorem entry?_eq_some_of_isDirectoryAt (h : t.isDirectoryAt names = true) :
    t.entry? names = some .directory := by
  unfold isDirectoryAt at h
  split at h
  · assumption
  · cases h

/-- Names that lead from the root to something are those of an entry. -/
theorem isSome_entry?_iff (hne : names ≠ []) :
    (t.entry? names).isSome = true ↔ ∃ e, (names, e) ∈ t.entries := by
  have hfalse : names.isEmpty = false := by simpa using hne
  unfold entry?
  rw [hfalse, if_neg Bool.false_ne_true, List.lookup_isSome_iff]
  simp

/-! ## Walks -/

/-- The place that one name leads to. -/
def step (t : FileTree) (place : List String) (name : String) : Option (List String) :=
  let next := if name = ".." then place.dropLast else place ++ [name]
  if t.isDirectoryAt place = true ∧ (t.entry? next).isSome = true then some next else none

theorem walk_cons (t : FileTree) (place : List String) (name : String) (rest : List String) :
    t.walk place (name :: rest) = (t.step place name).bind fun next => t.walk next rest := by
  simp only [walk, step]
  generalize (if name = ".." then place.dropLast else place ++ [name]) = next
  by_cases hplace : t.isDirectoryAt place = true
  · by_cases hnext : (t.entry? next).isSome = true
    · rw [if_pos hplace, if_pos hnext, if_pos ⟨hplace, hnext⟩, Option.bind_some]
    · rw [if_pos hplace, if_neg hnext, if_neg (fun h => hnext h.2), Option.bind_none]
  · rw [if_neg hplace, if_neg (fun h => hplace h.1), Option.bind_none]

theorem step_eq_some_iff {name : String} (hname : name ≠ "..") :
    t.step place name = some found ↔
      found = place ++ [name] ∧ t.isDirectoryAt place = true ∧ (t.entry? found).isSome = true := by
  simp only [step, if_neg hname]
  constructor
  · intro h
    split at h
    · next hthere =>
        obtain rfl := Option.some.inj h
        exact ⟨rfl, hthere⟩
    · cases h
  · rintro ⟨rfl, hthere⟩
    rw [if_pos hthere]

theorem walk_append (t : FileTree) (place names rest : List String) :
    t.walk place (names ++ rest) = (t.walk place names).bind fun there => t.walk there rest := by
  induction names generalizing place with
  | nil => rfl
  | cons name names ih =>
      simp only [List.cons_append, walk_cons, ih, Option.bind_assoc]

/-- Below a place, a walk leads to the names that it is made of. -/
theorem eq_of_walk (hup : ".." ∉ rest) (h : t.walk place rest = some found) :
    found = place ++ rest ∧ (rest ≠ [] → (t.entry? found).isSome = true) := by
  induction rest generalizing place with
  | nil =>
      obtain rfl := Option.some.inj h
      simp
  | cons name rest ih =>
      obtain ⟨hname, hup⟩ := not_or.mp (mt List.mem_cons.mpr hup)
      rw [walk_cons] at h
      obtain ⟨next, hnext, hwalk⟩ := Option.bind_eq_some_iff.mp h
      obtain ⟨rfl, -, hentry⟩ := (step_eq_some_iff (Ne.symm hname)).mp hnext
      obtain ⟨rfl, hmore⟩ := ih hup hwalk
      rw [List.append_assoc]
      refine ⟨rfl, fun _ => ?_⟩
      cases rest with
      | nil => simpa using hentry
      | cons _ _ => simpa using hmore (List.cons_ne_nil _ _)

namespace IsSound

/-- An entry below a place is reached from there. -/
theorem walk_eq (h : t.IsSound) (hentry : rest ≠ [] → (t.entry? (place ++ rest)).isSome = true) :
    t.walk place rest = some (place ++ rest) := by
  -- the directory of the entry is an entry itself, unless it is the place
  induction rest using List.reverseRecOn with
  | nil => rw [walk, List.append_nil]
  | append_singleton front name ih =>
      have hlast := hentry (List.append_ne_nil_of_right_ne_nil _ (List.cons_ne_nil _ _))
      have hne : place ++ (front ++ [name]) ≠ [] := by simp
      obtain ⟨e, he⟩ := (isSome_entry?_iff hne).mp hlast
      have habove : t.isDirectoryAt (place ++ front) = true := by
        have hdirectory := h.above _ he hne
        rwa [← List.append_assoc, List.dropLast_concat] at hdirectory
      have hname : name ≠ ".." := (h.names _ he name (by simp)).1
      have hfront : t.walk place front = some (place ++ front) := by
        refine ih fun _ => ?_
        rw [entry?_eq_some_of_isDirectoryAt habove]
        rfl
      have hstep : t.step (place ++ front) name = some (place ++ (front ++ [name])) :=
        (step_eq_some_iff hname).mpr ⟨(List.append_assoc ..).symm, habove, hlast⟩
      rw [walk_append, hfront, Option.bind_some, walk_cons, hstep]
      rfl

/-- What a path leads to that goes on from a place without a step back. -/
theorem find?_below (h : t.IsSound) {p : Path} (hplace : t.resolve? p = some place)
    (hup : ".." ∉ rest) :
    t.find? ⟨p.slashes, p.names ++ rest⟩ = t.entry? (place ++ rest) := by
  have hresolve : t.resolve? ⟨p.slashes, p.names ++ rest⟩ = t.walk place rest := by
    unfold resolve? at hplace ⊢
    rw [walk_append]
    exact (congrArg (Option.bind · fun there => t.walk there rest) hplace).trans rfl
  rw [find?, hresolve]
  cases hentry : t.entry? (place ++ rest) with
  | some e =>
      rw [h.walk_eq fun _ => by rw [hentry]; rfl, Option.bind_some, hentry]
  | none =>
      cases hwalk : t.walk place rest with
      | none => rfl
      | some found =>
          obtain ⟨rfl, hmore⟩ := eq_of_walk hup hwalk
          rw [Option.bind_some, hentry]

/-- A path that goes on from a place leads to something if there is an entry under its names. -/
theorem contains_below_iff (h : t.IsSound) {p : Path} (hplace : t.resolve? p = some place)
    (hne : rest ≠ []) (hup : ".." ∉ rest) :
    t.contains ⟨p.slashes, p.names ++ rest⟩ = true ↔ ∃ e, (place ++ rest, e) ∈ t.entries := by
  rw [contains, h.find?_below hplace hup,
    isSome_entry?_iff (List.append_ne_nil_of_right_ne_nil place hne)]

end IsSound

end BuildSpec.FileTree
