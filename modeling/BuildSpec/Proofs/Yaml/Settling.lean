import BuildSpec.Proofs.Except
import BuildSpec.Yaml
import Mathlib.Data.List.TakeDrop
import Mathlib.Data.List.TakeWhile

/-!
# Settling a plain document

A document is settled before it stands for data: merge keys and marks of defaults are replaced, and
scalars get their texts.  In a document that is a finite tree and has only scalars as keys, none of
which is such a mark, there is nothing to be replaced.  So the tree from which the data is read is
the tree from which the places are read:

* `Node.isScalarKeyed` — the documents in question, among them those with texts as keys;
* `keeps_openCell` — to check the parts of one node changes nothing;
* `settled_tree_eq` — nor does it to check all of them.
-/

namespace BuildSpec.Yaml

namespace Node

mutual

/-- Whether no collection recurs inside itself and every key is a text. -/
def isTextKeyed : Node → Bool
  | scalar .. => true
  | sequence _ items _ => itemsAreTextKeyed items
  | mapping _ entries _ => entriesAreTextKeyed entries
  | enclosing .. => false

/-- Whether all items of a sequence are such. -/
def itemsAreTextKeyed : List Node → Bool
  | [] => true
  | item :: rest => item.isTextKeyed && itemsAreTextKeyed rest

/-- Whether all keys of a mapping are texts and all its values are such. -/
def entriesAreTextKeyed : List (Node × Node) → Bool
  | [] => true
  | (scalar .str _ _, value) :: rest => value.isTextKeyed && entriesAreTextKeyed rest
  | _ => false

end

/-- Whether a node is a text. -/
def IsText (key : Node) : Prop := ∃ text mark, key = scalar .str text mark

theorem itemsAreTextKeyed_iff {items : List Node} :
    itemsAreTextKeyed items = true ↔ ∀ item ∈ items, item.isTextKeyed = true := by
  induction items with
  | nil => simp [itemsAreTextKeyed]
  | cons item rest ih => simp [itemsAreTextKeyed, ih]

theorem entriesAreTextKeyed_iff {entries : List (Node × Node)} :
    entriesAreTextKeyed entries = true ↔ ∀ e ∈ entries, e.1.IsText ∧ e.2.isTextKeyed = true := by
  induction entries with
  | nil => simp [entriesAreTextKeyed]
  | cons e rest ih =>
      obtain ⟨key, value⟩ := e
      rw [List.forall_mem_cons, ← ih]
      constructor
      · intro h
        unfold entriesAreTextKeyed at h
        split at h
        · next heq => cases heq
        · next text mark v more heq =>
            cases heq
            rw [Bool.and_eq_true] at h
            exact ⟨⟨⟨text, mark, rfl⟩, h.1⟩, h.2⟩
        · cases h
      · rintro ⟨⟨⟨text, mark, hkey⟩, hvalue⟩, hrest⟩
        dsimp only at hkey hvalue
        subst hkey
        simp [entriesAreTextKeyed, hvalue, hrest]

/-- Whether a node is a scalar and no mark of a merge or of a default. -/
def isKey : Node → Bool
  | scalar tag _ _ => tag ≠ .merge && tag ≠ .default
  | _ => false

mutual

/-- Whether no collection recurs inside itself and every key is a scalar that is no mark. -/
def isScalarKeyed : Node → Bool
  | scalar .. => true
  | sequence _ items _ => itemsAreScalarKeyed items
  | mapping _ entries _ => entriesAreScalarKeyed entries
  | enclosing .. => false

/-- Whether all items of a sequence are such. -/
def itemsAreScalarKeyed : List Node → Bool
  | [] => true
  | item :: rest => item.isScalarKeyed && itemsAreScalarKeyed rest

/-- Whether all keys of a mapping are such scalars and all its values are such. -/
def entriesAreScalarKeyed : List (Node × Node) → Bool
  | [] => true
  | (key, value) :: rest => key.isKey && value.isScalarKeyed && entriesAreScalarKeyed rest

end

theorem isKey_iff {key : Node} :
    key.isKey = true ↔
      ∃ tag text mark, key = scalar tag text mark ∧ tag ≠ .merge ∧ tag ≠ .default := by
  cases key <;> simp [isKey]

theorem itemsAreScalarKeyed_iff {items : List Node} :
    itemsAreScalarKeyed items = true ↔ ∀ item ∈ items, item.isScalarKeyed = true := by
  induction items with
  | nil => simp [itemsAreScalarKeyed]
  | cons item rest ih => simp [itemsAreScalarKeyed, ih]

theorem entriesAreScalarKeyed_iff {entries : List (Node × Node)} :
    entriesAreScalarKeyed entries = true ↔
      ∀ e ∈ entries, e.1.isKey = true ∧ e.2.isScalarKeyed = true := by
  induction entries with
  | nil => simp [entriesAreScalarKeyed]
  | cons e rest ih => simp [entriesAreScalarKeyed, ih]

mutual

/-- A text is a scalar and no mark. -/
theorem isScalarKeyed_of_isTextKeyed : ∀ n : Node, n.isTextKeyed = true → n.isScalarKeyed = true
  | scalar .., _ => rfl
  | sequence _ items _, h => itemsAreScalarKeyed_of_textKeyed items h
  | mapping _ entries _, h => entriesAreScalarKeyed_of_textKeyed entries h
  | enclosing .., h => h

theorem itemsAreScalarKeyed_of_textKeyed : ∀ items : List Node,
    itemsAreTextKeyed items = true → itemsAreScalarKeyed items = true
  | [], _ => rfl
  | item :: rest, h => by
      rw [itemsAreTextKeyed, Bool.and_eq_true] at h
      rw [itemsAreScalarKeyed, isScalarKeyed_of_isTextKeyed item h.1,
        itemsAreScalarKeyed_of_textKeyed rest h.2]
      rfl

theorem entriesAreScalarKeyed_of_textKeyed : ∀ entries : List (Node × Node),
    entriesAreTextKeyed entries = true → entriesAreScalarKeyed entries = true
  | [], _ => rfl
  | (key, value) :: rest, h => by
      obtain ⟨⟨text, mark, hkey⟩, -⟩ := entriesAreTextKeyed_iff.mp h _ List.mem_cons_self
      dsimp only at hkey
      subst hkey
      rw [entriesAreTextKeyed, Bool.and_eq_true] at h
      rw [entriesAreScalarKeyed, isScalarKeyed_of_isTextKeyed value h.1,
        entriesAreScalarKeyed_of_textKeyed rest h.2]
      rfl

end

end Node

namespace Graph

variable {g : Graph}

/-! ## The nodes of a tree with scalars as keys -/

/-- A node below which there is a finite tree with scalars as keys. -/
def ScalarKeyedAt (g : Graph) (i : Nat) : Prop :=
  ∃ n around, (g.treeFrom n around i).isScalarKeyed = true

/-- A node that is a scalar and no mark of a merge or of a default. -/
def IsKeyAt (g : Graph) (i : Nat) : Prop :=
  ∃ tag text mark, g.cell i = .scalar tag text mark ∧ tag ≠ .merge ∧ tag ≠ .default

theorem isKeyAt_of_keyFrom {n i : Nat} {around : List Nat}
    (h : (g.keyFrom n around i).isKey = true) : g.IsKeyAt i := by
  cases n with
  | zero => cases h
  | succ n =>
      unfold keyFrom at h
      dsimp only at h
      split at h
      · cases h
      · cases hcell : g.cell i with
        | scalar tag text mark =>
            rw [hcell] at h
            obtain ⟨tag', text', mark', heq, htag⟩ := Node.isKey_iff.mp h
            cases heq
            exact ⟨tag, text, mark, hcell, htag⟩
        | sequence tag items mark =>
            rw [hcell] at h
            cases h
        | mapping tag entries mark =>
            rw [hcell] at h
            cases h

/-- A tree that is not cut has at its root what the node is. -/
theorem treeFrom_of_isScalarKeyed {n i : Nat} {around : List Nat}
    (h : (g.treeFrom n around i).isScalarKeyed = true) :
    ∃ m, n = m + 1 ∧ i ∉ around ∧
      g.treeFrom n around i = match g.cell i with
        | .scalar tag text mark => .scalar tag text mark
        | .sequence tag items mark => .sequence tag (items.map (g.treeFrom m (i :: around))) mark
        | .mapping tag entries mark =>
          .mapping tag (entries.map fun e =>
            (g.keyFrom (g.cells.size + 1) [] e.1, g.treeFrom m (i :: around) e.2)) mark := by
  cases n with
  | zero => cases h
  | succ m =>
      by_cases hin : i ∈ around
      · simp [treeFrom, hin, recurrence, Node.isScalarKeyed] at h
      · have hout : around.contains i = false := by simpa using hin
        refine ⟨m, rfl, hin, ?_⟩
        rw [treeFrom, hout]
        rfl

theorem ScalarKeyedAt.items {i : Nat} {tag : Tag} {items : List Nat} {mark : Mark}
    (h : g.ScalarKeyedAt i) (hcell : g.cell i = .sequence tag items mark) :
    ∀ item ∈ items, g.ScalarKeyedAt item := by
  obtain ⟨n, around, hkeyed⟩ := h
  obtain ⟨m, -, -, htree⟩ := treeFrom_of_isScalarKeyed hkeyed
  rw [htree, hcell] at hkeyed
  intro item hitem
  have hall := Node.itemsAreScalarKeyed_iff.mp hkeyed
  exact ⟨m, i :: around, hall _ (List.mem_map_of_mem hitem)⟩

theorem ScalarKeyedAt.entries {i : Nat} {tag : Tag} {entries : List (Nat × Nat)} {mark : Mark}
    (h : g.ScalarKeyedAt i) (hcell : g.cell i = .mapping tag entries mark) :
    ∀ e ∈ entries, g.IsKeyAt e.1 ∧ g.ScalarKeyedAt e.2 := by
  obtain ⟨n, around, hkeyed⟩ := h
  obtain ⟨m, -, -, htree⟩ := treeFrom_of_isScalarKeyed hkeyed
  rw [htree, hcell] at hkeyed
  intro e he
  have hall := Node.entriesAreScalarKeyed_iff.mp hkeyed
  obtain ⟨hkey, hvalue⟩ := hall _ (List.mem_map_of_mem he)
  exact ⟨isKeyAt_of_keyFrom hkey, m, i :: around, hvalue⟩

theorem scalarKeyedAt_of_scalar {i : Nat} {tag : Tag} {text : String} {mark : Mark}
    (h : g.cell i = .scalar tag text mark) : g.ScalarKeyedAt i := by
  refine ⟨1, [], ?_⟩
  simp [treeFrom, h, Node.isScalarKeyed]

/-! ## Nothing is replaced -/

theorem asKey_of_isKeyAt {i : Nat} (h : g.IsKeyAt i) : g.asKey i = g := by
  obtain ⟨tag, text, mark, hcell, -, hdefault⟩ := h
  unfold asKey
  rw [hcell]
  cases tag <;> first | rfl | exact absurd rfl hdefault

theorem merge_of_scalarKeyed {i : Nat} {tag : Tag} {entries : List (Nat × Nat)} {mark : Mark}
    (h : g.ScalarKeyedAt i) (hcell : g.cell i = .mapping tag entries mark) :
    g.merge i = .ok g := by
  have hentries : g.entries i = entries := by
    unfold Graph.entries
    rw [hcell]
  have hkey : ∀ e ∈ entries, (g.tag e.1 != .merge) = true := by
    intro e he
    obtain ⟨⟨tag, text, mark, hscalar, hmerge, -⟩, -⟩ := h.entries hcell e he
    rw [Graph.tag, hscalar]
    exact bne_iff_ne.mpr hmerge
  have hspan : entries.span (fun e => g.tag e.1 != .merge) = (entries, []) := by
    rw [List.span_eq_takeWhile_dropWhile, List.takeWhile_eq_self_iff.mpr hkey,
      List.dropWhile_eq_nil_iff.mpr hkey]
  have hown : ∀ own : List (Nat × Nat), (∀ e ∈ own, e ∈ entries) →
      own.foldl (fun g e => g.asKey e.1) g = g := by
    intro own
    induction own with
    | nil => exact fun _ => rfl
    | cons e rest ih =>
        intro hmem
        obtain ⟨hkey, -⟩ := h.entries hcell e (hmem e List.mem_cons_self)
        rw [List.foldl_cons, asKey_of_isKeyAt hkey]
        exact ih fun e' he' => hmem e' (List.mem_cons_of_mem _ he')
  unfold merge mergeFrom
  simp only [hentries, List.drop_zero, hspan]
  rw [hown entries fun _ he => he]
  rfl

/-- The text of a node that stands for a scalar is its own text. -/
theorem scalarText_of_scalarKeyed {i : Nat} {text : String} (h : g.ScalarKeyedAt i)
    (htext : g.scalarText i = .ok text) : ∃ tag mark, g.cell i = .scalar tag text mark := by
  unfold scalarText textWithin at htext
  cases hcell : g.cell i with
  | scalar tag t mark =>
      simp only [hcell] at htext
      split at htext
      · cases htext
      · cases htext
        exact ⟨tag, mark, rfl⟩
  | sequence tag items mark =>
      simp only [hcell] at htext
      split at htext <;> cases htext
  | mapping tag entries mark =>
      have hnone : entries.find? (fun e => g.tag e.1 == .default) = none := by
        rw [List.find?_eq_none]
        intro e he
        obtain ⟨⟨keyTag, t, m, hkey, -, hdefault⟩, -⟩ := h.entries hcell e he
        rw [Graph.tag, hkey]
        exact fun heq => hdefault (eq_of_beq heq)
      simp only [hcell, hnone] at htext
      split at htext <;> cases htext

/-! ## Checking the nodes -/

/-- While the nodes of a graph are checked, the graph stays as it is, the texts that become known
are those of scalars, and what is put off has scalars as keys. -/
structure Survey.Keeps (g : Graph) (s : Survey) : Prop where
  graph_eq : s.graph = g
  texts_eq : ∀ j text, s.texts.getD j none = some text → ∃ tag mark, g.cell j = .scalar tag text mark
  next_keyed : ∀ i ∈ s.next, g.ScalarKeyedAt i

namespace Survey

variable {s s' : Survey} {i : Nat}

/-- A text that is known is the one that has just become known, or was known before. -/
theorem getD_setIfInBounds {texts : Array (Option String)} {j : Nat} {text known : String}
    (h : (texts.setIfInBounds i (some text)).getD j none = some known) :
    (j = i ∧ known = text) ∨ texts.getD j none = some known := by
  simp only [Array.getD_eq_getD_getElem?, Array.getElem?_setIfInBounds] at h ⊢
  split_ifs at h with hij hi
  · exact .inl ⟨hij.symm, (Option.some.inj h).symm⟩
  · cases h
  · exact .inr h

/-- At the start no text is known. -/
theorem texts_start (g : Graph) (j : Nat) (text : String) :
    (start g).texts.getD j none ≠ some text := by
  simp only [start, Array.getD_eq_getD_getElem?, Array.getElem?_replicate]
  split <;> nofun

theorem keeps_reach (h : s.Keeps g) (hi : g.ScalarKeyedAt i) (hreach : s.reach i = .ok s') :
    s'.Keeps g := by
  unfold reach at hreach
  split at hreach
  · cases hreach
    exact h
  · dsimp only at hreach
    split at hreach
    · -- a collection is put off
      cases hreach
      refine ⟨h.graph_eq, h.texts_eq, fun j hj => ?_⟩
      rcases List.mem_cons.mp hj with rfl | hj
      · exact hi
      · exact h.next_keyed j hj
    · -- a scalar gets its text
      obtain ⟨text, htext, hreach⟩ := bind_eq_ok_iff.mp hreach
      obtain ⟨value, -, hreach⟩ := bind_eq_ok_iff.mp hreach
      cases hreach
      rw [h.graph_eq] at htext
      refine ⟨h.graph_eq, fun j t hj => ?_, h.next_keyed⟩
      rcases getD_setIfInBounds hj with ⟨rfl, rfl⟩ | hj
      · exact scalarText_of_scalarKeyed hi htext
      · exact h.texts_eq j t hj

theorem keeps_reachEntries {tag : Tag} {entries : List (Nat × Nat)} {mark : Mark}
    (h : s.Keeps g) (hi : g.ScalarKeyedAt i) (hcell : g.cell i = .mapping tag entries mark)
    (hreach : s.reachEntries entries = .ok s') : s'.Keeps g := by
  refine foldlM_keeps (fun e he t t' ht hstep => ?_) h hreach
  obtain ⟨⟨keyTag, text, m, hkey, -⟩, hvalue⟩ := hi.entries hcell e he
  obtain ⟨u, hu, hstep⟩ := bind_eq_ok_iff.mp hstep
  have hkeeps : u.Keeps g := keeps_reach ht (scalarKeyedAt_of_scalar hkey) hu
  split at hstep
  · cases hstep
  · exact keeps_reach hkeeps hvalue hstep

/-- An item of a list of pairs is a mapping with one entry. -/
theorem keeps_reachPair (h : s.Keeps g) (hi : g.ScalarKeyedAt i)
    (hreach : (match s.graph.cell i with
      | .mapping _ [(key, value)] _ => do (← s.reach key).reach value
      | _ => .error .malformed) = .ok s') : s'.Keeps g := by
  rw [h.graph_eq] at hreach
  split at hreach
  · next tag key value mark hcell =>
      obtain ⟨t, ht, hreach⟩ := bind_eq_ok_iff.mp hreach
      obtain ⟨⟨keyTag, text, m, hkey, -⟩, hvalue⟩ := hi.entries hcell _ List.mem_cons_self
      exact keeps_reach (keeps_reach h (scalarKeyedAt_of_scalar hkey) ht) hvalue hreach
  · cases hreach

theorem keeps_openMapping {tag : Tag} {entries : List (Nat × Nat)} {mark : Mark}
    (h : s.Keeps g) (hi : g.ScalarKeyedAt i) (hcell : g.cell i = .mapping tag entries mark)
    (hopen : (do
      let g ← g.merge i
      { s with graph := g }.reachEntries (g.entries i)) = .ok s') : s'.Keeps g := by
  have hentries : g.entries i = entries := by
    unfold Graph.entries
    rw [hcell]
  obtain ⟨g', hmerge, hopen⟩ := bind_eq_ok_iff.mp hopen
  rw [merge_of_scalarKeyed hi hcell] at hmerge
  cases hmerge
  rw [hentries] at hopen
  have hsame : Survey.Keeps g { s with graph := g } := ⟨rfl, h.texts_eq, h.next_keyed⟩
  exact keeps_reachEntries hsame hi hcell hopen

/-- To check the parts of a node keeps what is to be kept, whatever kind of node it is. -/
theorem keeps_openCell (h : s.Keeps g) (hi : g.ScalarKeyedAt i) (hopen : s.openCell i = .ok s') :
    s'.Keeps g := by
  unfold openCell at hopen
  rw [h.graph_eq] at hopen
  split at hopen
  · next items mark hcell =>
      exact foldlM_keeps (fun item hitem t t' ht hstep =>
        keeps_reach ht (hi.items hcell item hitem) hstep) h hopen
  · next items mark hcell =>
      exact foldlM_keeps (fun item hitem t t' ht hstep =>
        keeps_reachPair ht (hi.items hcell item hitem) hstep) h hopen
  · next items mark hcell =>
      exact foldlM_keeps (fun item hitem t t' ht hstep =>
        keeps_reachPair ht (hi.items hcell item hitem) hstep) h hopen
  · next entries mark hcell => exact keeps_openMapping h hi hcell hopen
  · next entries mark hcell => exact keeps_openMapping h hi hcell hopen
  · cases hopen

theorem keeps_levels {n : Nat} (h : s.Keeps g) (hlevels : levels n s = .ok s') : s'.Keeps g := by
  induction n generalizing s with
  | zero =>
      cases hlevels
      exact h
  | succ n ih =>
      unfold levels at hlevels
      split at hlevels
      · cases hlevels
        exact h
      · obtain ⟨t, ht, hlevels⟩ := bind_eq_ok_iff.mp hlevels
        have hempty : Survey.Keeps g { s with next := [] } :=
          ⟨h.graph_eq, h.texts_eq, fun i hi => by cases hi⟩
        have hopened : t.Keeps g := foldlM_keeps (fun i hi u u' hu hstep =>
          keeps_openCell hu (h.next_keyed i (List.mem_reverse.mp hi)) hstep) hempty ht
        exact ih hopened hlevels

theorem keeps_start (g : Graph) : (start g).Keeps g := by
  exact ⟨rfl, fun j text hj => absurd hj (texts_start g j text), fun i hi => by cases hi⟩

end Survey

/-- Settling leaves the graph as it is, and the texts that become known are those of scalars. -/
theorem settle_of_scalarKeyed {s : Settled} (hkeyed : g.ScalarKeyedAt g.root)
    (hsettle : g.settle = .ok s) :
    s.graph = g ∧
      ∀ j text, s.texts.getD j none = some text → ∃ tag mark, g.cell j = .scalar tag text mark := by
  obtain ⟨first, hfirst, hsettle⟩ := bind_eq_ok_iff.mp hsettle
  obtain ⟨last, hlast, hsettle⟩ := bind_eq_ok_iff.mp hsettle
  cases hsettle
  have hkeeps : last.Keeps g :=
    Survey.keeps_levels (Survey.keeps_reach (Survey.keeps_start g) hkeyed hfirst) hlast
  exact ⟨hkeeps.graph_eq, hkeeps.texts_eq⟩

/-! ## The tree of the settled document -/

section Settled

variable {s : Settled} (hgraph : s.graph = g)
  (htexts : ∀ j text, s.texts.getD j none = some text → ∃ tag mark, g.cell j = .scalar tag text mark)

include hgraph htexts

theorem settled_treeFrom_scalar {n j : Nat} {around : List Nat} {tag : Tag} {text : String}
    {mark : Mark} (hcell : g.cell j = .scalar tag text mark) (hj : j ∉ around) :
    s.treeFrom (n + 1) around j = .scalar tag text mark := by
  simp only [Settled.treeFrom, List.contains_eq_mem, hj, decide_false, Bool.false_eq_true, if_false,
    hgraph, hcell]
  cases htext : s.texts.getD j none with
  | none => rfl
  | some t =>
      obtain ⟨tag', mark', hsame⟩ := htexts j t htext
      rw [hcell] at hsame
      cases hsame
      rfl

omit hgraph in
theorem texts_of_collection {j : Nat} (h : ∀ tag text mark, g.cell j ≠ .scalar tag text mark) :
    s.texts.getD j none = none := by
  cases htext : s.texts.getD j none with
  | none => rfl
  | some t =>
      obtain ⟨tag, mark, hcell⟩ := htexts j t htext
      exact absurd hcell (h tag t mark)

/-- The entries of a mapping agree if the trees below the values do. -/
theorem settled_entries_eq {m n : Nat} {around around' : List Nat} {entries : List (Nat × Nat)}
    (hle : m ≤ n) (hcollections : ∀ j ∈ around, ∀ tag text mark, g.cell j ≠ .scalar tag text mark)
    (hkeyed : ∀ e ∈ entries, (g.keyFrom (g.cells.size + 1) [] e.1).isKey = true ∧
      (g.treeFrom m around' e.2).isScalarKeyed = true)
    (ih : ∀ i, (g.treeFrom m around' i).isScalarKeyed = true →
      s.treeFrom n around i = g.treeFrom m around' i) :
    entries.map (fun e => (s.treeFrom n around e.1, s.treeFrom n around e.2)) =
      entries.map fun e => (g.keyFrom (g.cells.size + 1) [] e.1, g.treeFrom m around' e.2) := by
  refine List.map_congr_left fun e he => ?_
  obtain ⟨hkey, hvalue⟩ := hkeyed e he
  obtain ⟨tag, text, mark, hcell, -⟩ := isKeyAt_of_keyFrom hkey
  obtain ⟨k, rfl, -, -⟩ := treeFrom_of_isScalarKeyed hvalue
  obtain ⟨n, rfl⟩ : ∃ l, n = l + 1 := ⟨n - 1, by omega⟩
  have houtside : e.1 ∉ around := fun hin => hcollections e.1 hin _ _ _ hcell
  have hkeyFrom : g.keyFrom (g.cells.size + 1) [] e.1 = .scalar tag text mark := by
    simp [keyFrom, hcell]
  rw [settled_treeFrom_scalar hgraph htexts hcell houtside, hkeyFrom, ih e.2 hvalue]

/-- The tree below a node of the settled document is that of the document.  An item of a list of
pairs is no collection of its own there, so that what is below it stands inside fewer
collections. -/
theorem settled_treeFrom_eq {m n i : Nat} {around around' : List Nat}
    (hle : m ≤ n) (hsub : around ⊆ around')
    (hcollections : ∀ j ∈ around, ∀ tag text mark, g.cell j ≠ .scalar tag text mark)
    (hkeyed : (g.treeFrom m around' i).isScalarKeyed = true) :
    s.treeFrom n around i = g.treeFrom m around' i := by
  induction m using Nat.strong_induction_on generalizing n i around around' with
  | _ m ih =>
    obtain ⟨m, rfl, hin', htree⟩ := treeFrom_of_isScalarKeyed hkeyed
    obtain ⟨n, rfl⟩ : ∃ k, n = k + 1 := ⟨n - 1, by omega⟩
    have hmn : m ≤ n := by omega
    have hin : i ∉ around := fun h => hin' (hsub h)
    have hsub' : i :: around ⊆ i :: around' := List.cons_subset_cons i hsub
    rw [htree] at hkeyed ⊢
    cases hcell : g.cell i with
    | scalar tag text mark => exact settled_treeFrom_scalar hgraph htexts hcell hin
    | mapping tag entries mark =>
        have hno : ∀ tag text mark, g.cell i ≠ .scalar tag text mark := by simp [hcell]
        have hcollections' : ∀ j ∈ i :: around, ∀ tag text mark, g.cell j ≠ .scalar tag text mark :=
          List.forall_mem_cons.mpr ⟨hno, hcollections⟩
        rw [hcell] at hkeyed
        have hall := Node.entriesAreScalarKeyed_iff.mp hkeyed
        have hentries := settled_entries_eq hgraph htexts hmn hcollections'
          (fun e he => hall _ (List.mem_map_of_mem he))
          (fun j hj => ih m (Nat.lt_succ_self m) hmn hsub' hcollections' hj)
        simp only [Settled.treeFrom, List.contains_eq_mem, hin, decide_false, Bool.false_eq_true,
          if_false, hgraph, hcell, texts_of_collection htexts hno]
        rw [hentries]
    | sequence tag items mark =>
        have hno : ∀ tag text mark, g.cell i ≠ .scalar tag text mark := by simp [hcell]
        have hcollections' : ∀ j ∈ i :: around, ∀ tag text mark, g.cell j ≠ .scalar tag text mark :=
          List.forall_mem_cons.mpr ⟨hno, hcollections⟩
        rw [hcell] at hkeyed
        have hall := Node.itemsAreScalarKeyed_iff.mp hkeyed
        simp only [Settled.treeFrom, List.contains_eq_mem, hin, decide_false, Bool.false_eq_true,
          if_false, hgraph, hcell, texts_of_collection htexts hno]
        refine congrArg (Node.sequence tag · mark) (List.map_congr_left fun item hitem => ?_)
        have hitemKeyed := hall _ (List.mem_map_of_mem hitem)
        split
        · next itemTag entries itemMark _ hitemCell =>
            obtain ⟨k, rfl, -, hitemTree⟩ := treeFrom_of_isScalarKeyed hitemKeyed
            rw [hitemTree, hitemCell] at hitemKeyed
            rw [hitemTree, hitemCell]
            have hkn : k ≤ n := by omega
            have hsub'' : i :: around ⊆ item :: i :: around' := List.subset_cons_of_subset _ hsub'
            have hentryKeyed := Node.entriesAreScalarKeyed_iff.mp hitemKeyed
            have hentries := settled_entries_eq hgraph htexts hkn
              hcollections' (fun e he => hentryKeyed _ (List.mem_map_of_mem he))
              (fun j hj => ih k (by omega) hkn hsub'' hcollections' hj)
            rw [hentries]
        · exact ih m (Nat.lt_succ_self m) hmn hsub' hcollections' hitemKeyed

end Settled

/-- **Settling does not change a document that is a finite tree with scalars as keys**, none of which
is a mark. -/
theorem settled_tree_eq {s : Settled} (hkeyed : g.tree.isScalarKeyed = true)
    (hsettle : g.settle = .ok s) : s.tree = g.tree := by
  obtain ⟨hgraph, htexts⟩ := settle_of_scalarKeyed ⟨_, _, hkeyed⟩ hsettle
  have hroot := settled_treeFrom_eq hgraph htexts (Nat.le_refl (g.cells.size + 1))
    (List.Subset.refl []) (fun j hj => by cases hj) hkeyed
  rw [Settled.tree, hgraph, hroot, tree]

end Graph

end BuildSpec.Yaml
