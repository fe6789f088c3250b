import BuildSpec.Proofs.Number.Numeral
import BuildSpec.Proofs.SourceMap
import BuildSpec.Yaml.SourceMap
import Mathlib.Data.List.Nodup

/-!
# Ways through a tree

A row of keys and positions leads from a node to the nodes below it.  A key may be repeated in a
mapping; then there are several ways with the same row, and the last mention of the key is the one
that counts.  The recorded places know these ways:

* `mem_places_iff` — a place is recorded for each node that a row leads to, and for nothing else;
* `lookup_sourceMap_of_lastAt` — where the same row leads to several nodes, the place that is looked
  up is that of the last mention;
* `HasDistinctKeys.lastAt` — without repeated keys every mention is the last one.
-/

namespace BuildSpec.Yaml.Node

/-- The mark at which a node starts. -/
def mark? : Node → Option Mark
  | scalar _ _ mark | sequence _ _ mark | mapping _ _ mark => some mark
  | enclosing .. => none

/-- A row of keys and positions leads from a node to a node below it. -/
inductive At : Node → List String → Node → Prop
  | here {n : Node} : At n [] n
  | entry {tag : Tag} {entries : List (Node × Node)} {mark : Mark} {key node m : Node}
      {way : List String} (hmem : (key, node) ∈ entries) (h : At node way m) :
      At (mapping tag entries mark) (key.keyToken :: way) m
  | item {tag : Tag} {items : List Node} {mark : Mark} {i : Nat} {node m : Node}
      {way : List String} (hitem : items[i]? = some node) (h : At node way m) :
      At (sequence tag items mark) (toString i :: way) m

/-- The value of the last entry whose key has a token. -/
def lastUnder (token : String) (entries : List (Node × Node)) : Option Node :=
  (entries.map fun e => (e.1.keyToken, e.2)).reverse.lookup token

/-- A row of keys and positions leads from a node to a node below it, through the last mention of
each key. -/
inductive LastAt : Node → List String → Node → Prop
  | here {n : Node} : LastAt n [] n
  | entry {tag : Tag} {entries : List (Node × Node)} {mark : Mark} {token : String} {node m : Node}
      {way : List String} (hlast : lastUnder token entries = some node) (h : LastAt node way m) :
      LastAt (mapping tag entries mark) (token :: way) m
  | item {tag : Tag} {items : List Node} {mark : Mark} {i : Nat} {node m : Node}
      {way : List String} (hitem : items[i]? = some node) (h : LastAt node way m) :
      LastAt (sequence tag items mark) (toString i :: way) m

/-- No key is repeated in a mapping, as far as rows of keys and positions lead. -/
def HasDistinctKeys (n : Node) : Prop :=
  ∀ way tag entries mark, n.At way (mapping tag entries mark) →
    (entries.map fun e => e.1.keyToken).Nodup

/-! ## The last mention of a key -/

theorem lastUnder_cons (token : String) (e : Node × Node) (rest : List (Node × Node)) :
    lastUnder token (e :: rest) =
      (lastUnder token rest).or (if token == e.1.keyToken then some e.2 else none) := by
  rw [lastUnder, List.map_cons, Table.lookup_reverse_cons, lastUnder]

theorem lastUnder_eq_none_iff {token : String} {entries : List (Node × Node)} :
    lastUnder token entries = none ↔ ∀ e ∈ entries, e.1.keyToken ≠ token := by
  rw [lastUnder, List.lookup_eq_none_iff]
  simp only [List.mem_reverse, List.forall_mem_map, bne_iff_ne, ne_comm]

theorem mem_of_lastUnder {token : String} {entries : List (Node × Node)} {node : Node}
    (h : lastUnder token entries = some node) :
    ∃ key, (key, node) ∈ entries ∧ key.keyToken = token := by
  obtain ⟨before, after, hentries, -⟩ := List.lookup_eq_some_iff.mp h
  have hmem : (token, node) ∈ (entries.map fun e => (e.1.keyToken, e.2)).reverse := by
    rw [hentries]
    simp
  obtain ⟨e, he, heq⟩ := List.mem_map.mp (List.mem_reverse.mp hmem)
  obtain ⟨htoken, rfl⟩ := Prod.mk.inj heq
  exact ⟨e.1, he, htoken⟩

/-- Without repeated keys every mention is the last one. -/
theorem lastUnder_of_mem {entries : List (Node × Node)} {key node : Node}
    (hdistinct : (entries.map fun e => e.1.keyToken).Nodup) (hmem : (key, node) ∈ entries) :
    lastUnder key.keyToken entries = some node := by
  have hkeys : ((entries.map fun e => (e.1.keyToken, e.2)).reverse.map Prod.fst).Nodup := by
    rw [List.map_reverse, List.map_map, List.nodup_reverse]
    exact hdistinct
  refine (Table.lookup_eq_some_iff_mem hkeys).mpr (List.mem_reverse.mpr ?_)
  exact List.mem_map_of_mem (f := fun e : Node × Node => (e.1.keyToken, e.2)) hmem

theorem LastAt.at {n m : Node} {way : List String} (h : n.LastAt way m) : n.At way m := by
  induction h with
  | here => exact .here
  | entry hlast _ ih =>
      obtain ⟨key, hmem, rfl⟩ := mem_of_lastUnder hlast
      exact .entry hmem ih
  | item hitem _ ih => exact .item hitem ih

theorem HasDistinctKeys.lastAt {n m : Node} {way : List String} (hdistinct : n.HasDistinctKeys)
    (h : n.At way m) : n.LastAt way m := by
  induction h with
  | here => exact .here
  | entry hmem _ ih =>
      refine .entry (lastUnder_of_mem (hdistinct [] _ _ _ .here) hmem) (ih ?_)
      exact fun way tag entries mark hat => hdistinct _ tag entries mark (.entry hmem hat)
  | item hitem _ ih =>
      refine .item hitem (ih ?_)
      exact fun way tag entries mark hat => hdistinct _ tag entries mark (.item hitem hat)

/-! ## The recorded places -/

mutual

/-- What is recorded is the place of a node that a row leads to. -/
theorem exists_at_of_mem_places : ∀ (n : Node) (pointer : String), ∀ e ∈ n.places pointer,
    ∃ way m mark, n.At way m ∧ m.mark? = some mark ∧
      e = (pointer ++ Pointer.encode way, placeOf mark)
  | scalar tag text mark, pointer, e, he => by
      rw [List.mem_singleton.mp he]
      exact ⟨[], _, mark, .here, rfl, Prod.ext String.append_empty.symm rfl⟩
  | sequence tag items mark, pointer, e, he => by
      rw [places] at he
      rcases List.mem_cons.mp he with rfl | he
      · exact ⟨[], _, mark, .here, rfl, Prod.ext String.append_empty.symm rfl⟩
      · obtain ⟨i, node, way, m, mark', hi, hat, hmark, rfl⟩ :=
          exists_at_of_mem_itemPlaces items pointer 0 e he
        rw [Nat.zero_add]
        exact ⟨_, m, mark', .item hi hat, hmark, rfl⟩
  | mapping tag entries mark, pointer, e, he => by
      rw [places] at he
      rcases List.mem_cons.mp he with rfl | he
      · exact ⟨[], _, mark, .here, rfl, Prod.ext String.append_empty.symm rfl⟩
      · obtain ⟨key, node, way, m, mark', hmem, hat, hmark, rfl⟩ :=
          exists_at_of_mem_entryPlaces entries pointer e he
        exact ⟨_, m, mark', .entry hmem hat, hmark, rfl⟩
  | enclosing .., _, _, he => by cases he

theorem exists_at_of_mem_itemPlaces : ∀ (items : List Node) (pointer : String) (position : Nat),
    ∀ e ∈ itemPlaces pointer position items, ∃ i node way m mark, items[i]? = some node ∧
      node.At way m ∧ m.mark? = some mark ∧
      e = (pointer ++ Pointer.encode (toString (position + i) :: way), placeOf mark)
  | [], _, _, _, he => by cases he
  | item :: rest, pointer, position, e, he => by
      rw [itemPlaces] at he
      rcases List.mem_append.mp he with he | he
      · obtain ⟨way, m, mark, hat, hmark, rfl⟩ := exists_at_of_mem_places item _ e he
        rw [Pointer.child_append_encode]
        exact ⟨0, item, way, m, mark, rfl, hat, hmark, rfl⟩
      · obtain ⟨i, node, way, m, mark, hi, hat, hmark, rfl⟩ :=
          exists_at_of_mem_itemPlaces rest pointer (position + 1) e he
        have hnext : position + 1 + i = position + (i + 1) := by omega
        rw [hnext]
        exact ⟨i + 1, node, way, m, mark, hi, hat, hmark, rfl⟩

theorem exists_at_of_mem_entryPlaces : ∀ (entries : List (Node × Node)) (pointer : String),
    ∀ e ∈ entryPlaces pointer entries, ∃ key node way m mark, (key, node) ∈ entries ∧
      node.At way m ∧ m.mark? = some mark ∧
      e = (pointer ++ Pointer.encode (key.keyToken :: way), placeOf mark)
  | [], _, _, he => by cases he
  | (key, value) :: rest, pointer, e, he => by
      rw [entryPlaces] at he
      rcases List.mem_append.mp he with he | he
      · obtain ⟨way, m, mark, hat, hmark, rfl⟩ := exists_at_of_mem_places value _ e he
        rw [Pointer.child_append_encode]
        exact ⟨key, value, way, m, mark, List.mem_cons_self, hat, hmark, rfl⟩
      · obtain ⟨key', node, way, m, mark, hmem, hat, hmark, rfl⟩ :=
          exists_at_of_mem_entryPlaces rest pointer e he
        exact ⟨key', node, way, m, mark, List.mem_cons_of_mem _ hmem, hat, hmark, rfl⟩

end

/-- A node that has a mark is recorded in front of all that is below it. -/
theorem places_eq_cons {n : Node} {mark : Mark} (hmark : n.mark? = some mark) (pointer : String) :
    ∃ below, n.places pointer = (pointer, placeOf mark) :: below ∧ ∀ e ∈ below, e.1 ≠ pointer := by
  have hbelow : ∀ (token : String) (way : List String),
      pointer ++ Pointer.encode (token :: way) ≠ pointer := by
    intro token way heq
    cases Pointer.append_encode_inj.mp (heq.trans (Pointer.append_encode_nil pointer).symm)
  cases n with
  | scalar tag text mark' =>
      cases hmark
      exact ⟨[], rfl, fun e he => by cases he⟩
  | sequence tag items mark' =>
      cases hmark
      refine ⟨itemPlaces pointer 0 items, rfl, fun e he => ?_⟩
      obtain ⟨i, -, way, -, -, -, -, -, rfl⟩ := exists_at_of_mem_itemPlaces items pointer 0 e he
      exact hbelow _ way
  | mapping tag entries mark' =>
      cases hmark
      refine ⟨entryPlaces pointer entries, rfl, fun e he => ?_⟩
      obtain ⟨key, -, way, -, -, -, -, -, rfl⟩ := exists_at_of_mem_entryPlaces entries pointer e he
      exact hbelow _ way
  | enclosing isMapping tag => cases hmark

theorem mem_itemPlaces {items : List Node} {pointer : String} {position i : Nat} {node : Node}
    (hi : items[i]? = some node) {e : String × Place}
    (he : e ∈ node.places (Pointer.child pointer (toString (position + i)))) :
    e ∈ itemPlaces pointer position items := by
  induction items generalizing position i with
  | nil => cases hi
  | cons item rest ih =>
      rw [itemPlaces, List.mem_append]
      cases i with
      | zero =>
          cases hi
          exact .inl he
      | succ i =>
          have hnext : position + (i + 1) = position + 1 + i := by omega
          rw [hnext] at he
          exact .inr (ih hi he)

theorem mem_entryPlaces {entries : List (Node × Node)} {pointer : String} {key node : Node}
    (hmem : (key, node) ∈ entries) {e : String × Place}
    (he : e ∈ node.places (Pointer.child pointer key.keyToken)) :
    e ∈ entryPlaces pointer entries := by
  induction entries with
  | nil => cases hmem
  | cons first rest ih =>
      rw [entryPlaces, List.mem_append]
      rcases List.mem_cons.mp hmem with rfl | hmem
      · exact .inl he
      · exact .inr (ih hmem)

/-- **Recorded are the places of the nodes that rows lead to**, and no others. -/
theorem mem_places_iff {n : Node} {pointer : String} {e : String × Place} :
    e ∈ n.places pointer ↔ ∃ way m mark, n.At way m ∧ m.mark? = some mark ∧
      e = (pointer ++ Pointer.encode way, placeOf mark) := by
  refine ⟨exists_at_of_mem_places n pointer e, ?_⟩
  rintro ⟨way, m, mark, hat, hmark, rfl⟩
  induction hat generalizing pointer with
  | here =>
      obtain ⟨below, hplaces, -⟩ := places_eq_cons hmark pointer
      rw [hplaces, Pointer.append_encode_nil]
      exact List.mem_cons_self
  | entry hmem _ ih =>
      rw [places, ← Pointer.child_append_encode]
      exact List.mem_cons_of_mem _ (mem_entryPlaces hmem (ih hmark))
  | @item tag items mark' i node m way hitem _ ih =>
      rw [places, ← Pointer.child_append_encode]
      have hzero : i = 0 + i := (Nat.zero_add i).symm
      refine List.mem_cons_of_mem _ (mem_itemPlaces hitem ?_)
      rw [← hzero]
      exact ih hmark

/-! ## The place that is looked up -/

theorem lookup_itemPlaces {items : List Node} {pointer : String} {position i : Nat} {node : Node}
    {way : List String} {place : Place} (hi : items[i]? = some node)
    (h : (SourceMap.ofList (node.places (Pointer.child pointer (toString (position + i))))).lookup
      (pointer ++ Pointer.encode (toString (position + i) :: way)) = some place) :
    (SourceMap.ofList (itemPlaces pointer position items)).lookup
      (pointer ++ Pointer.encode (toString (position + i) :: way)) = some place := by
  induction items generalizing position i with
  | nil => cases hi
  | cons item rest ih =>
      rw [itemPlaces, SourceMap.lookup_ofList_append]
      cases i with
      | zero =>
          cases hi
          have hlater : (SourceMap.ofList (itemPlaces pointer (position + 1) rest)).lookup
              (pointer ++ Pointer.encode (toString (position + 0) :: way)) = none := by
            refine SourceMap.lookup_ofList_eq_none fun e he => ?_
            obtain ⟨j, -, way', -, -, -, -, -, rfl⟩ :=
              exists_at_of_mem_itemPlaces rest pointer (position + 1) e he
            intro heq
            have hposition :=
              Number.eq_of_toString_eq (List.cons.inj (Pointer.append_encode_inj.mp heq)).1
            omega
          rw [hlater]
          exact h
      | succ i =>
          have hnext : position + (i + 1) = position + 1 + i := by omega
          rw [hnext] at h ⊢
          rw [ih hi h]
          rfl

theorem lookup_entryPlaces {entries : List (Node × Node)} {pointer token : String} {node : Node}
    {way : List String} {place : Place} (hlast : lastUnder token entries = some node)
    (h : (SourceMap.ofList (node.places (Pointer.child pointer token))).lookup
      (pointer ++ Pointer.encode (token :: way)) = some place) :
    (SourceMap.ofList (entryPlaces pointer entries)).lookup
      (pointer ++ Pointer.encode (token :: way)) = some place := by
  induction entries with
  | nil => cases hlast
  | cons e rest ih =>
      obtain ⟨key, value⟩ := e
      rw [entryPlaces, SourceMap.lookup_ofList_append]
      rw [lastUnder_cons] at hlast
      cases hrest : lastUnder token rest with
      | some later =>
          rw [hrest] at hlast
          cases hlast
          rw [ih hrest]
          rfl
      | none =>
          rw [hrest, Option.none_or] at hlast
          split at hlast
          · next htoken =>
              cases hlast
              obtain rfl := eq_of_beq htoken
              have hlater : (SourceMap.ofList (entryPlaces pointer rest)).lookup
                  (pointer ++ Pointer.encode (key.keyToken :: way)) = none := by
                refine SourceMap.lookup_ofList_eq_none fun e he => ?_
                obtain ⟨key', node', way', -, -, hmem, -, -, rfl⟩ :=
                  exists_at_of_mem_entryPlaces rest pointer e he
                intro heq
                exact lastUnder_eq_none_iff.mp hrest _ hmem
                  (List.cons.inj (Pointer.append_encode_inj.mp heq)).1
              rw [hlater]
              exact h
          · cases hlast

/-- Of all places recorded under the pointer of a row, the one of the last mention comes last.  The
induction is on the row, with the pointer of the node at its start. -/
theorem lookup_places {n m : Node} {way : List String} {mark : Mark} (h : n.LastAt way m)
    (hmark : m.mark? = some mark) (pointer : String) :
    (SourceMap.ofList (n.places pointer)).lookup (pointer ++ Pointer.encode way) =
      some (placeOf mark) := by
  induction h generalizing pointer with
  | here =>
      obtain ⟨below, hplaces, hbelow⟩ := places_eq_cons hmark pointer
      rw [hplaces, Pointer.append_encode_nil, SourceMap.lookup_ofList_cons,
        SourceMap.lookup_ofList_eq_none hbelow, if_pos (beq_self_eq_true pointer), Option.none_or]
  | @entry tag entries mark' token node m way hlast _ ih =>
      have hnode := ih hmark (Pointer.child pointer token)
      rw [Pointer.child_append_encode] at hnode
      rw [places, SourceMap.lookup_ofList_cons, lookup_entryPlaces hlast hnode, Option.some_or]
  | @item tag items mark' i node m way hitem _ ih =>
      have hnode := ih hmark (Pointer.child pointer (toString i))
      rw [Pointer.child_append_encode] at hnode
      have hzero : i = 0 + i := (Nat.zero_add i).symm
      rw [hzero] at hnode
      have hfound := lookup_itemPlaces hitem hnode
      rw [← hzero] at hfound
      rw [places, SourceMap.lookup_ofList_cons, hfound, Option.some_or]

/-- **The place that is looked up for a row is that of the node it leads to**, through the last
mention of each key. -/
theorem lookup_sourceMap_of_lastAt {n m : Node} {way : List String} {mark : Mark}
    (h : n.LastAt way m) (hmark : m.mark? = some mark) :
    n.sourceMap.lookup (Pointer.encode way) = some (placeOf mark) := by
  have hfound := lookup_places h hmark ""
  rw [String.empty_append] at hfound
  exact hfound

/-- A row leads to a node only if something is recorded for it. -/
theorem exists_lookup_of_at {n m : Node} {way : List String} {mark : Mark} (h : n.At way m)
    (hmark : m.mark? = some mark) :
    ∃ mark', n.sourceMap.lookup (Pointer.encode way) = some (placeOf mark') := by
  have hmem : (Pointer.encode way, placeOf mark) ∈ n.places "" :=
    mem_places_iff.mpr ⟨way, m, mark, h, hmark, by rw [String.empty_append]⟩
  obtain ⟨place, hlookup, hplace⟩ := SourceMap.exists_lookup_of_mem (List.mem_map_of_mem hmem)
  obtain ⟨way', m', mark', -, -, heq⟩ := mem_places_iff.mp hplace
  obtain rfl := (Prod.mk.inj heq).2
  exact ⟨mark', hlookup⟩

/-- What is looked up in a source map has been recorded for a node that the row of the pointer leads
to. -/
theorem exists_at_of_mem_sourceMap {n : Node} {e : String × Place} (h : e ∈ n.sourceMap) :
    ∃ way m mark, n.At way m ∧ m.mark? = some mark ∧ e = (Pointer.encode way, placeOf mark) := by
  obtain ⟨way, m, mark, hat, hmark, rfl⟩ := mem_places_iff.mp (SourceMap.mem_of_mem_ofList h)
  exact ⟨way, m, mark, hat, hmark, by rw [String.empty_append]⟩

end BuildSpec.Yaml.Node
