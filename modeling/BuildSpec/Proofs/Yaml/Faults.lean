import BuildSpec.Proofs.Yaml.GrammarFaults
import BuildSpec.Proofs.Yaml.ScalarFaults
import BuildSpec.Proofs.Yaml.Recurrence

/-!
# The faults of a document

A document that is read to its end may still stand for no data.  What is wrong with it is then wrong
with one of its nodes as they are written, although merges and defaults change the nodes while they
are checked:

* `Graph.Contains` — a node is inside another one;
* `Cell.From` — what becomes of a node: its text stays, its tag may become that of a text, and all
  its parts are nodes that were inside it before;
* `Graph.ends_mergeFrom`, `Graph.ends_settle` — merging and checking keep to that;
* `Fault.OfDocument` — the faults that a document may have; the last of them needs a node inside
  itself (`Graph.exists_contains_of_endless`);
* `fault_of_load` — no other fault keeps a text from being loaded.
-/

namespace BuildSpec.Yaml

/-! ## Nodes inside nodes -/

namespace Cell

/-- The numbers of the parts of a node. -/
def parts : Cell → List Nat
  | scalar .. => []
  | sequence _ items _ => items
  | mapping _ entries _ => entries.flatMap fun e => [e.1, e.2]

/-- The text of a scalar. -/
def text? : Cell → Option String
  | scalar _ text _ => some text
  | sequence .. | mapping .. => none

/-- Whether a node is a mapping. -/
def isMapping : Cell → Bool
  | mapping .. => true
  | scalar .. | sequence .. => false

theorem mem_parts_mapping {tag : Tag} {entries : List (Nat × Nat)} {mark : Mark} {j : Nat} :
    j ∈ (mapping tag entries mark).parts ↔ ∃ e ∈ entries, j = e.1 ∨ j = e.2 := by
  simp [parts]

end Cell

namespace Graph

/-- A node is inside another one. -/
def Contains (g : Graph) : Nat → Nat → Prop :=
  Relation.TransGen fun i j => j ∈ (g.cell i).parts

/-- A text of a node, or of a scalar inside it. -/
def TextIn (g : Graph) (i : Nat) (text : String) : Prop :=
  ∃ j, (j = i ∨ g.Contains i j) ∧ (g.cell j).text? = some text

/-- Entries that consist of nodes inside a node. -/
def EntriesIn (g : Graph) (i : Nat) (entries : List (Nat × Nat)) : Prop :=
  ∀ e ∈ entries, g.Contains i e.1 ∧ g.Contains i e.2

theorem TextIn.trans {g : Graph} {i j : Nat} {text : String} (hij : g.Contains i j)
    (h : g.TextIn j text) : g.TextIn i text := by
  obtain ⟨k, rfl | hk, htext⟩ := h
  · exact ⟨k, .inr hij, htext⟩
  · exact ⟨k, .inr (hij.trans hk), htext⟩

end Graph

namespace Graph.EntriesIn

variable {g : Graph} {i j : Nat} {entries more : List (Nat × Nat)}

theorem nil : g.EntriesIn i [] := fun _ he => absurd he List.not_mem_nil

theorem trans (hij : g.Contains i j) (h : g.EntriesIn j entries) : g.EntriesIn i entries :=
  fun e he => ⟨hij.trans (h e he).1, hij.trans (h e he).2⟩

theorem mono (h : g.EntriesIn i entries) (hsub : more ⊆ entries) : g.EntriesIn i more :=
  fun e he => h e (hsub he)

theorem append (h : g.EntriesIn i entries) (h' : g.EntriesIn i more) :
    g.EntriesIn i (entries ++ more) :=
  fun e he => (List.mem_append.mp he).elim (h e) (h' e)

end Graph.EntriesIn

/-- What may be wrong with a document whose tokens do not break off. -/
inductive Fault.OfDocument (g : Graph) : Fault → Prop
  | malformed : OfDocument g .malformed
  | scalar {i : Nat} {text : String} {fault : Fault} (htext : g.TextIn i text)
      (hvalue : scalarValue (g.tag i) text = .error fault) (h : fault.OfScalar (g.tag i)) :
      OfDocument g fault
  | timestampInMapping {i : Nat} (hmapping : (g.cell i).isMapping = true)
      (htag : g.tag i = .timestamp) : OfDocument g .timestampInMapping
  | endless {i : Nat} (h : g.Contains i i) : OfDocument g .endless

/-! ## What becomes of the nodes -/

/-- What may become of the node with a number. -/
structure Cell.From (g : Graph) (i : Nat) (c : Cell) : Prop where
  tag_eq : c.tag = g.tag i ∨ c.tag = .str
  text?_eq : c.text? = (g.cell i).text?
  isMapping_eq : c.isMapping = (g.cell i).isMapping
  contains : ∀ j ∈ c.parts, g.Contains i j

namespace Graph

/-- Every node of a graph comes of the node with the same number. -/
structure DescendsFrom (g₀ g : Graph) : Prop where
  size_eq : g.cells.size = g₀.cells.size
  cell : ∀ i, (g.cell i).From g₀ i

variable {g₀ g : Graph} {i : Nat}

theorem descendsFrom_refl (g : Graph) : g.DescendsFrom g :=
  ⟨rfl, fun _ => ⟨.inl rfl, rfl, rfl, fun _ hj => .single hj⟩⟩

theorem cell_write (c : Cell) (j : Nat) :
    (g.write i c).cell j = if i = j ∧ i < g.cells.size then c else g.cell j := by
  simp only [write, cell, Array.getD_eq_getD_getElem?, Array.getElem?_setIfInBounds]
  by_cases hij : i = j
  · subst hij
    by_cases hi : i < g.cells.size <;> simp [hi]
  · simp [hij]

namespace DescendsFrom

/-- One node is replaced. -/
theorem write (h : g₀.DescendsFrom g) {c : Cell} (hc : c.From g₀ i) :
    g₀.DescendsFrom (g.write i c) := by
  refine ⟨(Array.size_setIfInBounds ..).trans h.size_eq, fun j => ?_⟩
  rw [cell_write]
  split
  · next hij => exact hij.1 ▸ hc
  · exact h.cell j

theorem asKey (h : g₀.DescendsFrom g) (i : Nat) : g₀.DescendsFrom (g.asKey i) := by
  have hi := h.cell i
  unfold Graph.asKey
  split
  all_goals first | exact h | next hcell =>
    rw [hcell] at hi
    exact h.write ⟨.inr rfl, hi.text?_eq, hi.isMapping_eq, hi.contains⟩

/-- The entries of a mapping are replaced by some that consist of nodes inside it. -/
theorem writeEntries (h : g₀.DescendsFrom g) {entries : List (Nat × Nat)}
    (hentries : g₀.EntriesIn i entries) : g₀.DescendsFrom (g.writeEntries i entries) := by
  have hi := h.cell i
  unfold Graph.writeEntries
  split
  · next tag _ mark hcell =>
      rw [hcell] at hi
      refine h.write ⟨hi.tag_eq, hi.text?_eq, hi.isMapping_eq, fun j hj => ?_⟩
      obtain ⟨e, he, rfl | rfl⟩ := Cell.mem_parts_mapping.mp hj
      · exact (hentries e he).1
      · exact (hentries e he).2
  · exact h

theorem entriesIn (h : g₀.DescendsFrom g) (i : Nat) : g₀.EntriesIn i (g.entries i) := by
  intro e he
  have hi := h.cell i
  unfold Graph.entries at he
  split at he
  · next hcell =>
      rw [hcell] at hi
      exact ⟨hi.contains _ (Cell.mem_parts_mapping.mpr ⟨e, he, .inl rfl⟩),
        hi.contains _ (Cell.mem_parts_mapping.mpr ⟨e, he, .inr rfl⟩)⟩
  · cases he

theorem contains_item (h : g₀.DescendsFrom g) {tag : Tag} {items : List Nat} {mark : Mark}
    (hcell : g.cell i = .sequence tag items mark) {item : Nat} (hitem : item ∈ items) :
    g₀.Contains i item := by
  have hi := (h.cell i).contains item
  rw [hcell] at hi
  exact hi hitem

theorem foldl_asKey (h : g₀.DescendsFrom g) (own : List (Nat × Nat)) :
    g₀.DescendsFrom (own.foldl (fun g e => g.asKey e.1) g) := by
  induction own generalizing g with
  | nil => exact h
  | cons e rest ih => exact ih (h.asKey e.1)

end DescendsFrom

variable {n : Nat}

/-- The entries of several mappings, each of which is merged itself before its entries are taken. -/
theorem ends_mergeItems {f : Nat → Graph → Except Fault Graph} {items : List Nat}
    (hf : ∀ item g, g₀.DescendsFrom g → Ends (· = .malformed) g₀.DescendsFrom (f item g))
    (hitems : ∀ item ∈ items, g₀.Contains i item) (h : g₀.DescendsFrom g) :
    Ends (· = .malformed)
      (fun r : Graph × List (Nat × Nat) => g₀.DescendsFrom r.1 ∧ g₀.EntriesIn i r.2)
      (items.foldlM (fun r item =>
        match r.1.cell item with
        | .mapping .. => do
          let g ← f item r.1
          return (g, g.entries item ++ r.2)
        | _ => throw .malformed) (g, [])) := by
  refine Ends.foldlM (fun item hitem r hr => ?_) ⟨h, .nil⟩
  split
  · refine (hf item r.1 hr.1).bind fun g₁ h₁ => ?_
    exact ⟨h₁, (EntriesIn.trans (hitems item hitem) (h₁.entriesIn item)).append hr.2⟩
  · exact rfl

/-- Merging has no faults of its own, and a mapping gets nothing that has not been inside it. -/
theorem ends_mergeFrom (h : g₀.DescendsFrom g) {place : Nat} {merged : List (Nat × Nat)}
    (hmerged : g₀.EntriesIn i merged) :
    Ends (· = .malformed) g₀.DescendsFrom (mergeFrom n place merged i g) := by
  -- a merge inside another one is about another mapping, so the entries are not fixed
  induction n generalizing g place merged i with
  | zero => exact rfl
  | succ n ih =>
      unfold mergeFrom
      extract_lets entries
      have hentries : g₀.EntriesIn i entries := h.entriesIn i
      split
      next own rest hspan =>
      have hrest : rest ⊆ entries := by
        rw [List.span_eq_takeWhile_dropWhile] at hspan
        rw [← (Prod.mk.inj hspan).2]
        exact ((List.dropWhile_sublist _).trans (List.drop_sublist _ _)).subset
      extract_lets keyed place'
      have hkeyed : g₀.DescendsFrom keyed := h.foldl_asKey own
      split
      · split
        · exact hkeyed
        · exact hkeyed.writeEntries (hmerged.append hentries)
      · next key source after =>
        have hsource : g₀.Contains i source := (hentries _ (hrest List.mem_cons_self)).2
        have hafter : after ⊆ entries := List.Subset.trans (List.subset_cons_self _ _) hrest
        -- the merge key itself is cut out before what it refers to is merged
        extract_lets cut
        have hcut : g₀.DescendsFrom cut :=
          hkeyed.writeEntries ((hentries.mono (List.take_subset _ _)).append (hentries.mono hafter))
        split
        · refine (ih hcut .nil).bind fun g₁ h₁ => ?_
          exact ih h₁ (hmerged.append (.trans hsource (h₁.entriesIn source)))
        · next items _ hcell =>
          have hitems : ∀ item ∈ items, g₀.Contains i item :=
            fun item hitem => hsource.trans (hcut.contains_item hcell hitem)
          have hmore := ends_mergeItems (f := mergeFrom n 0 []) (fun _ _ hg => ih hg .nil)
            hitems hcut
          exact hmore.bind fun r hr => ih hr.1 (hmerged.append hr.2)
        · exact rfl

/-! ## The texts of scalars -/

/-- The default of a mapping is a node inside it. -/
theorem DescendsFrom.contains_default (h : g₀.DescendsFrom g) {tag : Tag}
    {entries : List (Nat × Nat)} {mark : Mark} (hcell : g.cell i = .mapping tag entries mark)
    {e : Nat × Nat} (he : entries.find? (fun e => g.tag e.1 == .default) = some e) :
    g₀.Contains i e.2 := by
  have hin := h.entriesIn i
  unfold Graph.entries at hin
  rw [hcell] at hin
  exact (hin e (List.mem_of_find?_eq_some he)).2

/-- The text that is found for a node is one inside it, unless the search does not end. -/
theorem ends_textWithin (h : g₀.DescendsFrom g) :
    Ends (fun fault => fault = .malformed ∨ fault = .endless) (g₀.TextIn i)
      (g.textWithin n i) := by
  induction n generalizing i with
  | zero => exact .inr rfl
  | succ n ih =>
      unfold textWithin
      split
      · next tag text mark hcell =>
        have htext := (h.cell i).text?_eq
        rw [hcell] at htext
        exact ⟨i, .inl rfl, htext.symm⟩
      · exact .inl rfl
      · next hcell =>
        split
        · next e hfound =>
          have hinside := h.contains_default hcell hfound
          exact ih.mono (fun _ => id) fun text htext => htext.trans hinside
        · exact .inl rfl

/-- If no node is inside itself, the search comes to an end: it does not come back to a mapping that
it came through, and there are only so many of them. -/
theorem textWithin_ne_endless (h : g₀.DescendsFrom g) (hfinite : ∀ j, ¬ g₀.Contains j j)
    (way : List Nat) (hway : ∀ j ∈ way, j < g.cells.size ∧ g₀.Contains j i) (hnodup : way.Nodup)
    (hroom : g.cells.size < way.length + n) : g.textWithin n i ≠ .error .endless := by
  -- what is left of the fuel and the way that lies behind make up more than all nodes
  induction n generalizing i way with
  | zero =>
      have hle := length_le_of_nodup hnodup fun j hj => (hway j hj).1
      omega
  | succ n ih =>
      unfold textWithin
      split
      · nofun
      · nofun
      · next hcell =>
        split
        · next e hfound =>
          have hinside := h.contains_default hcell hfound
          have hi : i < g.cells.size := by
            by_contra hge
            rw [cell, Array.getD_eq_getD_getElem?, Array.getElem?_eq_none (by omega)] at hcell
            cases hcell
          refine ih (i :: way) ?_ (List.nodup_cons.mpr ⟨?_, hnodup⟩) ?_
          · refine List.forall_mem_cons.mpr ⟨⟨hi, hinside⟩, fun j hj => ?_⟩
            exact ⟨(hway j hj).1, (hway j hj).2.trans hinside⟩
          · exact fun hmem => hfinite i (hway i hmem).2
          · rw [List.length_cons]
            omega
        · nofun

theorem exists_contains_of_endless (h : g₀.DescendsFrom g)
    (hendless : g.textWithin (g.cells.size + 1) i = .error .endless) : ∃ j, g₀.Contains j j := by
  by_contra hfinite
  refine textWithin_ne_endless h (not_exists.mp hfinite) [] nofun List.nodup_nil ?_ hendless
  rw [List.length_nil]
  omega

/-- A text that is taken for a node is one inside it. -/
theorem ends_scalarText (h : g₀.DescendsFrom g) (i : Nat) :
    Ends (Fault.OfDocument g₀) (g₀.TextIn i) (g.scalarText i) := by
  have htext : Ends (Fault.OfDocument g₀) (g₀.TextIn i) (g.textWithin (g.cells.size + 1) i) := by
    cases hwithin : g.textWithin (g.cells.size + 1) i with
    | ok text => exact (ends_textWithin h).yields text hwithin
    | error fault =>
        rcases (ends_textWithin h).faults fault hwithin with rfl | rfl
        · exact .malformed
        · obtain ⟨j, hj⟩ := exists_contains_of_endless h hwithin
          exact .endless hj
  unfold scalarText
  extract_lets rest
  have hrest : Ends (Fault.OfDocument g₀) (g₀.TextIn i) (rest ()) := by
    refine htext.bind fun text hin => ?_
    split
    · next hcell =>
      have hi := h.cell i
      rw [hcell] at hi
      exact Fault.OfDocument.timestampInMapping hi.isMapping_eq.symm
        (hi.tag_eq.resolve_right nofun).symm
    · exact hin
  split
  · exact Fault.OfDocument.malformed
  · exact hrest

/-! ## Checking the nodes -/

/-- The nodes are those of a graph, and the texts are texts inside them. -/
structure Settled.DescendsFrom (g₀ : Graph) (s : Settled) : Prop where
  graph : g₀.DescendsFrom s.graph
  texts : ∀ i text, s.texts.getD i none = some text → g₀.TextIn i text

/-- A scalar with a text inside it has the faults of the document. -/
theorem DescendsFrom.faults_scalarValue (h : g₀.DescendsFrom g) {text : String}
    (htext : g₀.TextIn i text) : Faults (Fault.OfDocument g₀) (scalarValue (g.tag i) text) := by
  rcases (h.cell i).tag_eq with htag | htag
  · rw [tag, htag]
    exact fun fault hfault => .scalar htext hfault (ofScalar_of_scalarValue hfault)
  · rw [tag, htag]
    exact .ok _

namespace Survey

/-- What is known while the nodes are checked. -/
def DescendsFrom (g₀ : Graph) (s : Survey) : Prop := s.toSettled.DescendsFrom g₀

variable {s : Survey}

theorem ends_reach (h : s.DescendsFrom g₀) (i : Nat) :
    Ends (Fault.OfDocument g₀) (DescendsFrom g₀) (s.reach i) := by
  unfold reach
  split
  · exact h
  · extract_lets s₁
    split
    · exact h
    · refine (ends_scalarText h.graph i).bind fun text htext => ?_
      refine (h.graph.faults_scalarValue htext).ends.bind fun _ _ => ?_
      refine ⟨h.graph, fun j other hother => ?_⟩
      rcases getD_setIfInBounds hother with ⟨rfl, rfl⟩ | hother
      · exact htext
      · exact h.texts j other hother

theorem ends_reachEntries (h : s.DescendsFrom g₀) (entries : List (Nat × Nat)) :
    Ends (Fault.OfDocument g₀) (DescendsFrom g₀) (s.reachEntries entries) := by
  refine Ends.foldlM (fun e _ s hs => ?_) h
  obtain ⟨key, value⟩ := e
  refine (ends_reach hs key).bind fun s' hs' => ?_
  split
  · exact Fault.OfDocument.malformed
  · exact ends_reach hs' value

theorem ends_openCell (h : s.DescendsFrom g₀) (i : Nat) :
    Ends (Fault.OfDocument g₀) (DescendsFrom g₀) (s.openCell i) := by
  unfold openCell
  split
  case h_1 => exact Ends.foldlM (fun item _ s hs => ends_reach hs item) h
  case h_2 | h_3 =>
    refine Ends.foldlM (fun item _ s hs => ?_) h
    split
    · exact (ends_reach hs _).bind fun s' hs' => ends_reach hs' _
    · exact Fault.OfDocument.malformed
  case h_4 | h_5 =>
    refine Ends.bind (Q := g₀.DescendsFrom) ?_ fun g hg => ?_
    · refine (ends_mergeFrom h.graph .nil).mono (fun fault hfault => ?_) fun _ hg => hg
      exact hfault ▸ .malformed
    · exact ends_reachEntries (s := { s with graph := g }) ⟨hg, h.texts⟩ _
  case h_6 => exact Fault.OfDocument.malformed

theorem ends_levels (n : Nat) (h : s.DescendsFrom g₀) :
    Ends (Fault.OfDocument g₀) (DescendsFrom g₀) (levels n s) := by
  induction n generalizing s with
  | zero => exact h
  | succ n ih =>
      unfold levels
      split
      · exact h
      · refine Ends.bind ?_ fun s' hs' => ih hs'
        exact Ends.foldlM (fun i _ s hs => ends_openCell hs i) (s := { s with next := [] }) h

end Survey

/-- Checking has the faults of the document, and keeps to its nodes and texts. -/
theorem ends_settle (g : Graph) :
    Ends (Fault.OfDocument g) (Settled.DescendsFrom g) g.settle := by
  have hstart : (Survey.start g).DescendsFrom g :=
    ⟨descendsFrom_refl g, fun i text htext => absurd htext (Survey.texts_start g i text)⟩
  exact (Survey.ends_reach hstart g.root).bind fun s hs =>
    (Survey.ends_levels _ hs).bind fun s' hs' => hs'

end Graph

/-! ## The values of the nodes -/

namespace Node

variable {P : Fault → Prop} {tag : Tag} {mark : Mark}

/-- A node the value of which has no faults but some; nor have its entries, if it is a mapping, for
in a list of pairs they count by themselves. -/
structure FaultsWithin (P : Fault → Prop) (n : Node) : Prop where
  value : Faults P n.value
  entries : ∀ tag entries mark, n = .mapping tag entries mark →
    ∀ e ∈ entries, Faults P e.1.value ∧ Faults P e.2.value

theorem faults_values {items : List Node} (h : ∀ item ∈ items, item.FaultsWithin P) :
    Faults P (values items) := by
  induction items with
  | nil => exact .ok []
  | cons item rest ih =>
      obtain ⟨hitem, hrest⟩ := List.forall_mem_cons.mp h
      rw [values]
      exact hitem.value.bind fun _ _ => (ih hrest).bind fun _ _ => .ok _

theorem faults_entryValues (hP : P .malformed) {entries : List (Node × Node)}
    (h : ∀ e ∈ entries, e.1.FaultsWithin P ∧ e.2.FaultsWithin P) :
    Faults P (entryValues entries) := by
  induction entries with
  | nil => exact .ok []
  | cons e rest ih =>
      obtain ⟨⟨hkey, hvalue⟩, hrest⟩ := List.forall_mem_cons.mp h
      obtain ⟨key, value⟩ := e
      cases key with
      | scalar tag text mark =>
          rw [entryValues]
          refine (hkey.value.bind fun _ _ => .ok _).bind fun _ _ => ?_
          exact hvalue.value.bind fun _ _ => (ih hrest).bind fun _ _ => .ok _
      | sequence | mapping | enclosing => exact .error hP

theorem faults_pairs (hP : P .malformed) {items : List Node}
    (h : ∀ item ∈ items, item.FaultsWithin P) : Faults P (pairs items) := by
  induction items with
  | nil => exact .ok []
  | cons item rest ih =>
      obtain ⟨hitem, hrest⟩ := List.forall_mem_cons.mp h
      unfold pairs
      split
      · exact .ok []
      · next key value mark _ heq =>
        obtain ⟨rfl, rfl⟩ := List.cons.inj heq
        obtain ⟨hkey, hvalue⟩ := hitem.entries _ _ _ rfl _ List.mem_cons_self
        exact hkey.bind fun _ _ => hvalue.bind fun _ _ => (ih hrest).bind fun _ _ => .ok _
      · exact .error hP

namespace FaultsWithin

theorem scalar {text : String} (h : Faults P (scalarValue tag text)) :
    (scalar tag text mark).FaultsWithin P :=
  ⟨h, nofun⟩

theorem enclosing (isMapping : Bool) (tag : Tag) : (enclosing isMapping tag).FaultsWithin P :=
  ⟨.ok _, nofun⟩

theorem sequence (hP : P .malformed) {items : List Node} (h : ∀ item ∈ items, item.FaultsWithin P) :
    (sequence tag items mark).FaultsWithin P := by
  refine ⟨?_, nofun⟩
  cases tag with
  | seq => exact (faults_values h).map _
  | omap | pairs => exact (faults_pairs hP h).map _
  | _ => exact .error hP

theorem mapping (hP : P .malformed) {entries : List (Node × Node)}
    (h : ∀ e ∈ entries, e.1.FaultsWithin P ∧ e.2.FaultsWithin P) :
    (mapping tag entries mark).FaultsWithin P := by
  constructor
  · cases tag with
    | map | set => exact (faults_entryValues hP h).map _
    | _ => exact .error hP
  · intro tag' entries' mark' heq e he
    cases heq
    exact ⟨(h e he).1.value, (h e he).2.value⟩

end FaultsWithin

end Node

/-- The value of a checked document has the faults of the document. -/
theorem Graph.Settled.DescendsFrom.faultsWithin_treeFrom {g₀ : Graph} {s : Graph.Settled}
    (h : s.DescendsFrom g₀) (n : Nat) (around : List Nat) (i : Nat) :
    (s.treeFrom n around i).FaultsWithin (Fault.OfDocument g₀) := by
  have hscalar : ∀ {i c text} mark, s.graph.cell i = c → g₀.TextIn i text →
      (Node.scalar c.tag text mark).FaultsWithin (Fault.OfDocument g₀) := by
    rintro i _ text mark rfl htext
    exact .scalar (h.graph.faults_scalarValue htext)
  induction n generalizing around i with
  | zero => exact .enclosing _ _
  | succ n ih =>
      unfold treeFrom
      extract_lets below entriesBelow
      have hentries : ∀ entries, ∀ e ∈ entriesBelow entries,
          e.1.FaultsWithin (Fault.OfDocument g₀) ∧ e.2.FaultsWithin (Fault.OfDocument g₀) := by
        intro entries e he
        obtain ⟨e', -, rfl⟩ := List.mem_map.mp he
        exact ⟨ih _ _, ih _ _⟩
      split
      · exact .enclosing _ _
      · split
        · next text mark hcell htext =>
          have hown := (h.graph.cell i).text?_eq
          rw [hcell] at hown
          exact hscalar mark hcell ⟨i, .inl rfl, hown.symm⟩
        · next text hcell htext => exact hscalar _ hcell (h.texts i text htext)
        · next text hcell htext => exact hscalar _ hcell (h.texts i text htext)
        · next text hcell htext => exact hscalar _ hcell (h.texts i text htext)
        · -- a mapping in a list of pairs is no node of its own, but its entries are
          refine .sequence .malformed fun node hnode => ?_
          obtain ⟨item, -, rfl⟩ := List.mem_map.mp hnode
          split
          · exact .mapping .malformed (hentries _)
          · exact ih _ _
        · exact .mapping .malformed (hentries _)

/-- **A text that is not loaded has the faults of its tokens or of its nodes.** -/
theorem fault_of_load {text : String} {fault : Fault} (h : load text = .error fault) :
    fault.Lexical ∨ ∃ g, Graph.ofText text = .ok (some g) ∧ fault.OfDocument g := by
  rcases bind_eq_error h with hgraph | ⟨document, hdocument, h⟩
  · exact .inl (lexical_of_ofText hgraph)
  cases document with
  | none => cases h
  | some g =>
      refine .inr ⟨g, hdocument, ?_⟩
      rcases bind_eq_error h with hsettle | ⟨s, hsettle, hvalue⟩
      · exact (Graph.ends_settle g).faults fault hsettle
      · have hs := (Graph.ends_settle g).yields s hsettle
        exact (hs.faultsWithin_treeFrom _ _ _).value fault hvalue

end BuildSpec.Yaml
