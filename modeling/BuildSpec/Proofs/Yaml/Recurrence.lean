import BuildSpec.Proofs.Yaml.Settling
import Mathlib.Data.List.Perm.Subperm
import Mathlib.Logic.Relation

/-!
# Collections inside themselves

An alias may put a collection among its own items or values, or deeper inside itself.  The tree of
such a document is cut where the collection recurs, but a walk that records the place of every node
goes on without end.  Both are the same documents:

* `Graph.Holds`, `Graph.HoldsItself` — a node is an item or a value of another one, and some node
  that is reached this way from the root is inside itself;
* `Graph.recurs_tree_iff` — exactly then the tree is cut somewhere outside its keys;
* `Graph.holdsItself_iff_endless` — exactly then a way down from the root never ends;
* `sourceMap_eq_error_iff` — exactly then a text that is loaded has no source map;
* `sourceMap_of_isScalarKeyed` — so a finite tree with scalars as keys has one.
-/

namespace BuildSpec.Yaml

/-! ## Trees that are cut -/

namespace Node

theorem itemsRecur_iff {items : List Node} :
    itemsRecur items = true ↔ ∃ item ∈ items, item.recurs = true := by
  induction items with
  | nil => simp [itemsRecur]
  | cons item rest ih => simp [itemsRecur, ih]

theorem valuesRecur_iff {entries : List (Node × Node)} :
    valuesRecur entries = true ↔ ∃ e ∈ entries, e.2.recurs = true := by
  induction entries with
  | nil => simp [valuesRecur]
  | cons e rest ih => simp [valuesRecur, ih]

mutual

/-- A finite tree with scalars as keys is not cut. -/
theorem recurs_of_isScalarKeyed : ∀ n : Node, n.isScalarKeyed = true → n.recurs = false
  | scalar .., _ => rfl
  | sequence _ items _, h => itemsRecur_of_scalarKeyed items h
  | mapping _ entries _, h => valuesRecur_of_scalarKeyed entries h

theorem itemsRecur_of_scalarKeyed : ∀ items : List Node,
    itemsAreScalarKeyed items = true → itemsRecur items = false
  | [], _ => rfl
  | item :: rest, h => by
      rw [itemsAreScalarKeyed, Bool.and_eq_true] at h
      rw [itemsRecur, recurs_of_isScalarKeyed item h.1, itemsRecur_of_scalarKeyed rest h.2]
      rfl

theorem valuesRecur_of_scalarKeyed : ∀ entries : List (Node × Node),
    entriesAreScalarKeyed entries = true → valuesRecur entries = false
  | [], _ => rfl
  | (key, value) :: rest, h => by
      rw [entriesAreScalarKeyed, Bool.and_eq_true, Bool.and_eq_true] at h
      rw [valuesRecur, recurs_of_isScalarKeyed value h.1.2, valuesRecur_of_scalarKeyed rest h.2]
      rfl

end

end Node

/-! ## Nodes inside themselves -/

/-- The numbers of the items or values of a node. -/
def Cell.contents : Cell → List Nat
  | scalar .. => []
  | sequence _ items _ => items
  | mapping _ entries _ => entries.map Prod.snd

namespace Graph

/-- A node has another one among its items or values. -/
def Holds (g : Graph) (i j : Nat) : Prop := j ∈ (g.cell i).contents

/-- Some node at or below a node is inside itself. -/
def LeadsAround (g : Graph) (i : Nat) : Prop :=
  ∃ j, Relation.ReflTransGen g.Holds i j ∧ Relation.TransGen g.Holds j j

/-- A document in which a collection is inside itself. -/
def HoldsItself (g : Graph) : Prop := g.LeadsAround g.root

variable {g : Graph} {n i : Nat} {around : List Nat}

theorem lt_size_of_holds {j : Nat} (h : g.Holds i j) : i < g.cells.size := by
  by_contra hge
  rw [Holds, cell, Array.getD_eq_getD_getElem?, Array.getElem?_eq_none (by omega)] at h
  cases h

/-- Numbers without repetitions are no more than the numbers below their bound. -/
theorem length_le_of_nodup {numbers : List Nat} {bound : Nat} (hnodup : numbers.Nodup)
    (h : ∀ j ∈ numbers, j < bound) : numbers.length ≤ bound := by
  have hle := (hnodup.subperm fun j hj => List.mem_range.mpr (h j hj)).length_le
  rwa [List.length_range] at hle

/-- A tree is cut at its root, or below one of the items or values. -/
theorem recurs_treeFrom_succ_iff :
    (g.treeFrom (n + 1) around i).recurs = true ↔
      i ∈ around ∨ ∃ j, g.Holds i j ∧ (g.treeFrom n (i :: around) j).recurs = true := by
  by_cases hin : i ∈ around
  · simp [treeFrom, hin, recurrence, Node.recurs]
  · have hout : around.contains i = false := by simpa using hin
    rw [treeFrom, hout, or_iff_right hin]
    unfold Holds
    cases g.cell i with
    | scalar tag text mark => simp [Cell.contents, Node.recurs]
    | sequence tag items mark =>
        simp [Cell.contents, Node.recurs, Node.itemsRecur_iff]
    | mapping tag entries mark =>
        simp only [Bool.false_eq_true, if_false, Node.recurs, Node.valuesRecur_iff, Cell.contents,
          List.mem_map]
        constructor
        · rintro ⟨_, ⟨e, he, rfl⟩, hcut⟩
          exact ⟨e.2, ⟨e, he, rfl⟩, hcut⟩
        · rintro ⟨_, ⟨e, he, rfl⟩, hcut⟩
          exact ⟨_, ⟨e, he, rfl⟩, hcut⟩

/-- From a node that leads around, one of its items or values does too. -/
theorem LeadsAround.exists_holds (h : g.LeadsAround i) : ∃ j, g.Holds i j ∧ g.LeadsAround j := by
  obtain ⟨k, hik, hk⟩ := h
  rcases Relation.ReflTransGen.cases_head hik with rfl | ⟨j, hij, hjk⟩
  · obtain ⟨j, hij, hji⟩ := Relation.TransGen.head'_iff.mp hk
    exact ⟨j, hij, i, hji, hk⟩
  · exact ⟨j, hij, k, hjk, hk⟩

/-- From there a way down never ends. -/
theorem LeadsAround.exists_endless (h : g.LeadsAround i) :
    ∃ way : Nat → Nat, way 0 = i ∧ ∀ k, g.Holds (way k) (way (k + 1)) := by
  have hnext : ∀ i : { i // g.LeadsAround i }, ∃ j : { j // g.LeadsAround j }, g.Holds i j := by
    rintro ⟨i, hi⟩
    obtain ⟨j, hij, hj⟩ := hi.exists_holds
    exact ⟨⟨j, hj⟩, hij⟩
  choose next hnext using hnext
  refine ⟨fun k => (next^[k] ⟨i, h⟩).1, rfl, fun k => ?_⟩
  dsimp only
  rw [Function.iterate_succ_apply']
  exact hnext _

/-- However deep the tree is made, it is cut below a node that leads around. -/
theorem recurs_of_leadsAround (h : g.LeadsAround i) : (g.treeFrom n around i).recurs = true := by
  induction n generalizing i around with
  | zero => rfl
  | succ n ih =>
      obtain ⟨j, hij, hj⟩ := h.exists_holds
      exact recurs_treeFrom_succ_iff.mpr (.inr ⟨j, hij, ih hj⟩)

/-- A tree that has room for all nodes is only cut below a node that leads around. -/
theorem leadsAround_of_recurs (hnodup : around.Nodup)
    (hway : ∀ j ∈ around, j < g.cells.size ∧ Relation.TransGen g.Holds j i)
    (hroom : g.cells.size < around.length + n) (h : (g.treeFrom n around i).recurs = true) :
    g.LeadsAround i := by
  -- what is left of the depth and the nodes around make up more than all nodes
  induction n generalizing around i with
  | zero =>
      have hle := length_le_of_nodup hnodup fun j hj => (hway j hj).1
      omega
  | succ n ih =>
      by_cases hin : i ∈ around
      · exact ⟨i, .refl, (hway i hin).2⟩
      · obtain ⟨j, hij, hj⟩ := (recurs_treeFrom_succ_iff.mp h).resolve_left hin
        have hway' : ∀ k ∈ i :: around, k < g.cells.size ∧ Relation.TransGen g.Holds k j :=
          List.forall_mem_cons.mpr ⟨⟨lt_size_of_holds hij, .single hij⟩,
            fun k hk => ⟨(hway k hk).1, (hway k hk).2.tail hij⟩⟩
        have hroom' : g.cells.size < (i :: around).length + n := by
          rw [List.length_cons]
          omega
        obtain ⟨k, hjk, hk⟩ := ih (List.nodup_cons.mpr ⟨hin, hnodup⟩) hway' hroom' hj
        exact ⟨k, .head hij hjk, hk⟩

/-- **The tree of a document is cut outside its keys exactly if a collection is inside itself.** -/
theorem recurs_tree_iff : g.tree.recurs = true ↔ g.HoldsItself := by
  refine ⟨fun h => leadsAround_of_recurs List.nodup_nil nofun ?_ h, recurs_of_leadsAround⟩
  rw [List.length_nil]
  omega

theorem recurs_tree_eq_false_iff : g.tree.recurs = false ↔ ¬ g.HoldsItself := by
  rw [← recurs_tree_iff, Bool.not_eq_true]

/-- **A document in which a collection is inside itself has a way down that never ends**, and no
other document has. -/
theorem holdsItself_iff_endless :
    g.HoldsItself ↔ ∃ way : Nat → Nat, way 0 = g.root ∧ ∀ k, g.Holds (way k) (way (k + 1)) := by
  refine ⟨LeadsAround.exists_endless, fun ⟨way, hroot, hway⟩ => ?_⟩
  -- a tree of any depth is cut at the end of the way, if not before
  have hcut : ∀ n around k, (g.treeFrom n around (way k)).recurs = true := by
    intro n
    induction n with
    | zero => exact fun _ _ => rfl
    | succ n ih => exact fun around k => recurs_treeFrom_succ_iff.mpr (.inr ⟨_, hway k, ih _ _⟩)
  have hroot' : (g.treeFrom (g.cells.size + 1) [] (way 0)).recurs = true := hcut _ _ 0
  rw [hroot] at hroot'
  exact recurs_tree_iff.mp hroot'

end Graph

/-! ## Source maps -/

/-- A text the document in which has a collection inside itself. -/
def IsBottomless (text : String) : Prop := ∃ g, Graph.ofText text = .ok (some g) ∧ g.HoldsItself

variable {text : String} {g : Graph} {places : SourceMap}

/-- A source map is that of the tree as it is written. -/
theorem eq_sourceMap_of_ok (hdocument : Graph.ofText text = .ok (some g))
    (h : sourceMap text = .ok places) : g.tree.sourceMap = places := by
  unfold sourceMap at h
  rw [hdocument] at h
  dsimp only at h
  split at h
  · cases h
  · exact Except.ok.inj h

/-- A document in which no collection is inside itself has a source map. -/
theorem sourceMap_of_not_holdsItself (hdocument : Graph.ofText text = .ok (some g))
    (h : ¬ g.HoldsItself) : sourceMap text = .ok g.tree.sourceMap := by
  unfold sourceMap
  rw [hdocument]
  dsimp only
  rw [Graph.recurs_tree_eq_false_iff.mpr h]
  rfl

/-- A finite tree with scalars as keys has a source map. -/
theorem sourceMap_of_isScalarKeyed (hdocument : Graph.ofText text = .ok (some g))
    (hkeyed : g.tree.isScalarKeyed = true) : sourceMap text = .ok g.tree.sourceMap :=
  sourceMap_of_not_holdsItself hdocument
    (Graph.recurs_tree_eq_false_iff.mp (Node.recurs_of_isScalarKeyed _ hkeyed))

/-- **A text that is loaded has no source map exactly if a collection is inside itself.** -/
theorem sourceMap_eq_error_iff {v : Value} (hload : load text = .ok v) {cause : Fault} :
    sourceMap text = .error cause ↔ IsBottomless text ∧ .bottomless = cause := by
  obtain ⟨document, hdocument, -⟩ := bind_eq_ok_iff.mp hload
  unfold sourceMap IsBottomless
  rw [hdocument]
  cases document with
  | none => simp
  | some g =>
      by_cases hcut : g.tree.recurs = true
      · simp [hcut, Graph.recurs_tree_iff.mp hcut]
      · simp [hcut, mt Graph.recurs_tree_iff.mpr hcut]

end BuildSpec.Yaml
