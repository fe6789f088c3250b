import BuildSpec.Proofs.Value.Element
import BuildSpec.Proofs.Yaml.Values
import BuildSpec.Proofs.Yaml.Ways

/-!
# The keys in the file and the keys in the data

A place is recorded under the texts of keys as they stand in the file, but an element of the data is
told by the texts that are written for the values of keys.  The two rows differ where a value is
not written as it was read:

* `Tells` — the row that is told and the row that is recorded, side by side;
* `exists_tells_of_told` — an element of the data that is told is recorded too, under its own row;
* `eq_of_tells` — where all keys are texts, both rows are the same;
* `exists_place_of_has` — so there every element of the data has a place.
-/

namespace BuildSpec.Yaml.Node

/-- The node that the row `told` of texts for the keys in the data leads to stands at the end of the
row `written` of the texts in the file. -/
inductive Tells : Node → (told written : List String) → Node → Prop
  | here {n : Node} : Tells n [] [] n
  | entry {tag : Tag} {entries : List (Node × Node)} {mark : Mark} {read : Value} {text : String}
      {told written : List String} {content m : Node} (hread : ReadAs entries read text content)
      (h : Tells content told written m) :
      Tells (mapping tag entries mark) (read.plain :: told) (text :: written) m
  | unnamed {tag : Tag} {entries : List (Node × Node)} {mark : Mark} {text : String}
      {told written : List String} {content m : Node} (hread : ReadAs entries .null text content)
      (h : Tells content told written m) :
      Tells (mapping tag entries mark) told (text :: written) m
  | item {tag : Tag} {items : List Node} {mark : Mark} {i : Nat} {told written : List String}
      {node m : Node} (hitem : items[i]? = some node) (h : Tells node told written m) :
      Tells (sequence tag items mark) (toString i :: told) (toString i :: written) m

theorem Tells.at {n m : Node} {told written : List String} (h : n.Tells told written m) :
    n.At written m := by
  induction h with
  | here => exact .here
  | entry hread _ ih =>
      obtain ⟨-, -, ⟨tag, mark, hmem, -⟩, -⟩ := hread
      exact .entry hmem ih
  | unnamed hread _ ih =>
      obtain ⟨-, -, ⟨tag, mark, hmem, -⟩, -⟩ := hread
      exact .entry hmem ih
  | item hitem _ ih => exact .item hitem ih

/-- **An element of the data that is told stands in the file**, at the end of the row of the same
keys as they are written.  Inside a list of pairs the way ends early: a pair is told of its item, and
no way leads into it. -/
theorem exists_tells_of_told {v u : Value} {told : List String} (h : v.Told told u) {n : Node}
    (hvalue : n.value = .ok v) :
    ∃ written m, n.Tells told written m ∧ (m.value = .ok u ∨ ∃ parts, u = .tuple parts) := by
  induction h generalizing n with
  | here => exact ⟨[], n, .here, .inl hvalue⟩
  | @entry entries key way v u hmem _ ih =>
      obtain ⟨nodes, mark, es, rfl, hes, rfl⟩ := exists_of_value_eq_map hvalue
      obtain ⟨text, content, hread, hcontent⟩ := readAs_of_mem_mapOf hes hmem
      obtain ⟨written, m, hm, hmValue⟩ := ih hcontent
      exact ⟨text :: written, m, .entry hread hm, hmValue⟩
  | @unnamed entries way v u hmem _ ih =>
      obtain ⟨nodes, mark, es, rfl, hes, rfl⟩ := exists_of_value_eq_map hvalue
      obtain ⟨text, content, hread, hcontent⟩ := readAs_of_mem_mapOf hes hmem
      obtain ⟨written, m, hm, hmValue⟩ := ih hcontent
      exact ⟨text :: written, m, .unnamed hread hm, hmValue⟩
  | @item items i way v u hitem hrest ih =>
      obtain ⟨tag, nodes, mark, rfl, hvalues | hpairs⟩ := exists_of_value_eq_list hvalue
      · obtain ⟨node, hnode, hnodeValue⟩ := exists_of_values hvalues hitem
        obtain ⟨written, m, hm, hmValue⟩ := ih hnodeValue
        exact ⟨toString i :: written, m, .item hnode hm, hmValue⟩
      · obtain ⟨node, parts, hnode, rfl⟩ := exists_of_pairs hpairs hitem
        cases hrest
        exact ⟨[toString i], node, .item hnode .here, .inr ⟨parts, rfl⟩⟩

/-! ## Trees that are not cut -/

/-- A node that is not cut off has a mark. -/
theorem exists_mark_of_isScalarKeyed {n : Node} (h : n.isScalarKeyed = true) :
    ∃ mark, n.mark? = some mark := by
  cases n with
  | enclosing isMapping tag => cases h
  | _ => exact ⟨_, rfl⟩

theorem isScalarKeyed_of_at {n m : Node} {way : List String} (h : n.At way m)
    (hn : n.isScalarKeyed = true) : m.isScalarKeyed = true := by
  induction h with
  | here => exact hn
  | entry hmem _ ih => exact ih (entriesAreScalarKeyed_iff.mp hn _ hmem).2
  | item hitem _ ih => exact ih (itemsAreScalarKeyed_iff.mp hn _ (List.mem_of_getElem? hitem))

theorem isTextKeyed_of_at {n m : Node} {way : List String} (h : n.At way m)
    (hn : n.isTextKeyed = true) : m.isTextKeyed = true := by
  induction h with
  | here => exact hn
  | entry hmem _ ih => exact ih (entriesAreTextKeyed_iff.mp hn _ hmem).2
  | item hitem _ ih => exact ih (itemsAreTextKeyed_iff.mp hn _ (List.mem_of_getElem? hitem))

/-! ## Texts as keys -/

/-- **Where all keys are texts, what is told is what is written.** -/
theorem eq_of_tells {n m : Node} {told written : List String} (h : n.Tells told written m)
    (hn : n.isTextKeyed = true) : told = written := by
  induction h with
  | here => rfl
  | @entry tag entries mark read text told written content m hread _ ih =>
      have hall := entriesAreTextKeyed_iff.mp hn
      have htext := eq_text_of_readAs (fun e he => (hall e he).1) hread
      obtain ⟨-, -, ⟨tag', mark', hmem, -⟩, -⟩ := hread
      rw [htext, ih (hall _ hmem).2]
      rfl
  | @unnamed tag entries mark text told written content m hread _ ih =>
      have hall := entriesAreTextKeyed_iff.mp hn
      cases eq_text_of_readAs (fun e he => (hall e he).1) hread
  | item hitem _ ih =>
      rw [ih (itemsAreTextKeyed_iff.mp hn _ (List.mem_of_getElem? hitem))]

/-- Where all keys in the file are texts, so are those in the data. -/
theorem textKeyed_of_value {n : Node} {v : Value} (hkeyed : n.isTextKeyed = true)
    (hvalue : n.value = .ok v) : v.TextKeyed := by
  intro way entries hat e he
  obtain ⟨written, m, hm, hmValue | ⟨parts, hparts⟩⟩ := exists_tells_of_told hat.told hvalue
  · obtain ⟨nodes, mark, es, rfl, hes, rfl⟩ := exists_of_value_eq_map hmValue
    have hall := entriesAreTextKeyed_iff.mp (isTextKeyed_of_at hm.at hkeyed)
    obtain ⟨text, content, hread, -⟩ := readAs_of_mem_mapOf hes he
    exact ⟨text, eq_text_of_readAs (fun e he => (hall e he).1) hread⟩
  · cases hparts

/-- **Every element of the data has a place**, which is known, in the source map of the document. -/
theorem exists_place_of_has {n : Node} {v : Value} {way : List String}
    (hkeyed : n.isTextKeyed = true) (hvalue : n.value = .ok v) (h : v.Has way) :
    ∃ mark, n.sourceMap.lookup (Pointer.encode way) = some (placeOf mark) := by
  obtain ⟨u, hat⟩ := h
  obtain ⟨written, m, hm, -⟩ := exists_tells_of_told hat.told hvalue
  obtain rfl := eq_of_tells hm hkeyed
  have hscalars := isScalarKeyed_of_at hm.at (isScalarKeyed_of_isTextKeyed n hkeyed)
  obtain ⟨mark, hmark⟩ := exists_mark_of_isScalarKeyed hscalars
  exact exists_lookup_of_at hm.at hmark

end BuildSpec.Yaml.Node
