import BuildSpec.Proofs.Except
import BuildSpec.Proofs.Table
import BuildSpec.Proofs.Yaml.Settling

/-!
# The nodes behind values

A value comes of a node, and its parts come of the parts of the node.  This file goes back from the
value to the node:

* `exists_of_value_eq_map`, `exists_of_value_eq_list` — a mapping or a list comes of a collection;
* `exists_of_values`, `exists_of_pairs` — an item comes of an item;
* `readAs_of_mem_mapOf` — an entry comes of an entry, under a key that may have been written before.
-/

namespace BuildSpec.Yaml

theorem yields_readInteger (text : String) : Yields (∃ n, · = Value.int n) (readInteger text) := by
  unfold readInteger
  dsimp only
  split
  · exact .fault _
  · split
    · exact .bind fun n => .pure ⟨_, rfl⟩
    · exact .bind fun n => .pure ⟨_, rfl⟩
    · exact .bind fun n => .pure ⟨_, rfl⟩
    · exact .bind fun n => .pure ⟨_, rfl⟩
    · exact .bind fun n => .pure ⟨_, rfl⟩
    · split <;> exact .bind fun n => .pure ⟨_, rfl⟩

theorem yields_readFloat (text : String) : Yields (∃ x, · = Value.float x) (readFloat text) := by
  unfold readFloat
  generalize floatParts text = parts
  obtain ⟨negative, size⟩ := parts
  dsimp only
  split
  · exact .fault _
  · split
    · exact .bind fun x => .pure ⟨_, rfl⟩
    · split
      · exact .bind fun x => .pure ⟨_, rfl⟩
      · split <;> exact .bind fun x => .pure ⟨_, rfl⟩

theorem yields_timestampValue (t : Timestamp) :
    Yields (fun v => (∃ d, v = .day d) ∨ ∃ m, v = .moment m) t.value := by
  unfold Timestamp.value
  dsimp only
  split
  · exact .bind fun d => .pure (.inl ⟨d, rfl⟩)
  · split <;> exact .bind fun offset => .bind fun m => .pure (.inr ⟨m, rfl⟩)

/-- A value that is no list and no mapping. -/
def IsPlain (v : Value) : Prop := (∀ items, v ≠ .list items) ∧ ∀ entries, v ≠ .map entries

theorem isPlain_of_scalarValue {tag : Tag} {text : String} {v : Value}
    (h : scalarValue tag text = .ok v) : IsPlain v := by
  cases tag with
  | null =>
      cases h
      exact ⟨nofun, nofun⟩
  | bool =>
      simp only [scalarValue, readTruth] at h
      split at h
      · cases h
        exact ⟨nofun, nofun⟩
      · cases h
  | int =>
      obtain ⟨n, rfl⟩ := yields_readInteger text v h
      exact ⟨nofun, nofun⟩
  | float =>
      obtain ⟨x, rfl⟩ := yields_readFloat text v h
      exact ⟨nofun, nofun⟩
  | str =>
      cases h
      exact ⟨nofun, nofun⟩
  | timestamp =>
      simp only [scalarValue, readTimestamp] at h
      split at h
      · cases h
      · next t _ =>
          rcases yields_timestampValue t v (mapError_eq_ok_iff.mp h) with ⟨d, rfl⟩ | ⟨m, rfl⟩
          · exact ⟨nofun, nofun⟩
          · exact ⟨nofun, nofun⟩
  | binary =>
      simp only [scalarValue] at h
      split at h
      · cases h
        exact ⟨nofun, nofun⟩
      · cases h
  | _ => cases h

namespace Node

theorem setOf_eq_set (items : List Value) : ∃ held, Value.setOf items = .set held := by
  unfold Value.setOf
  split
  · exact ⟨items, rfl⟩
  · split
    · exact ⟨_, rfl⟩
    · exact ⟨items, rfl⟩

/-- A mapping among the values comes of a mapping among the nodes. -/
theorem exists_of_value_eq_map {n : Node} {entries : Entries} (h : n.value = .ok (.map entries)) :
    ∃ nodes mark es, n = mapping .map nodes mark ∧ entryValues nodes = .ok es ∧
      entries = mapOf es := by
  cases n with
  | scalar tag text mark => exact absurd rfl ((isPlain_of_scalarValue h).2 entries)
  | sequence tag items mark =>
      cases tag with
      | seq | omap | pairs =>
          obtain ⟨vs, -, hvs⟩ := map_eq_ok_iff.mp h
          cases hvs
      | _ => cases h
  | mapping tag nodes mark =>
      cases tag with
      | map =>
          obtain ⟨es, hes, heq⟩ := map_eq_ok_iff.mp h
          cases heq
          exact ⟨nodes, mark, es, rfl, hes, rfl⟩
      | set =>
          obtain ⟨es, -, hes⟩ := map_eq_ok_iff.mp h
          obtain ⟨held, hheld⟩ := setOf_eq_set ((mapOf es).map Prod.fst)
          rw [hheld] at hes
          cases hes
      | _ => cases h
  | enclosing isMapping tag => cases h

/-- A list among the values comes of a sequence among the nodes, which may be one of pairs. -/
theorem exists_of_value_eq_list {n : Node} {items : List Value} (h : n.value = .ok (.list items)) :
    ∃ tag nodes mark, n = sequence tag nodes mark ∧
      (values nodes = .ok items ∨ pairs nodes = .ok items) := by
  cases n with
  | scalar tag text mark => exact absurd rfl ((isPlain_of_scalarValue h).1 items)
  | sequence tag nodes mark =>
      cases tag with
      | seq =>
          obtain ⟨vs, hvs, heq⟩ := map_eq_ok_iff.mp h
          cases heq
          exact ⟨.seq, nodes, mark, rfl, .inl hvs⟩
      | omap =>
          obtain ⟨vs, hvs, heq⟩ := map_eq_ok_iff.mp h
          cases heq
          exact ⟨.omap, nodes, mark, rfl, .inr hvs⟩
      | pairs =>
          obtain ⟨vs, hvs, heq⟩ := map_eq_ok_iff.mp h
          cases heq
          exact ⟨.pairs, nodes, mark, rfl, .inr hvs⟩
      | _ => cases h
  | mapping tag nodes mark =>
      cases tag with
      | map =>
          obtain ⟨es, -, heq⟩ := map_eq_ok_iff.mp h
          cases heq
      | set =>
          obtain ⟨es, -, hes⟩ := map_eq_ok_iff.mp h
          obtain ⟨held, hheld⟩ := setOf_eq_set ((mapOf es).map Prod.fst)
          rw [hheld] at hes
          cases hes
      | _ => cases h
  | enclosing isMapping tag => cases h

theorem exists_of_values {nodes : List Node} {items : List Value} (h : values nodes = .ok items)
    {i : Nat} {v : Value} (hi : items[i]? = some v) :
    ∃ node, nodes[i]? = some node ∧ node.value = .ok v := by
  induction nodes generalizing items i with
  | nil =>
      cases h
      cases hi
  | cons node rest ih =>
      rw [values] at h
      obtain ⟨first, hfirst, h⟩ := bind_eq_ok_iff.mp h
      obtain ⟨others, hothers, h⟩ := bind_eq_ok_iff.mp h
      cases h
      cases i with
      | zero =>
          cases hi
          exact ⟨node, rfl, hfirst⟩
      | succ i => exact ih hothers hi

/-- An item of a list of pairs is a pair, inside which no way leads. -/
theorem exists_of_pairs {nodes : List Node} {items : List Value} (h : pairs nodes = .ok items)
    {i : Nat} {v : Value} (hi : items[i]? = some v) :
    ∃ node parts, nodes[i]? = some node ∧ v = .tuple parts := by
  induction nodes generalizing items i with
  | nil =>
      cases h
      cases hi
  | cons node rest ih =>
      unfold pairs at h
      split at h
      · next heq => cases heq
      · next tag key value mark more heq =>
          cases heq
          obtain ⟨k, -, h⟩ := bind_eq_ok_iff.mp h
          obtain ⟨c, -, h⟩ := bind_eq_ok_iff.mp h
          obtain ⟨others, hothers, h⟩ := bind_eq_ok_iff.mp h
          cases h
          cases i with
          | zero =>
              cases hi
              exact ⟨_, _, rfl, rfl⟩
          | succ i => exact ih hothers hi
      · cases h

/-! ## Entries -/

/-- Among the entries of a mapping is one with a scalar as its key, which has this text. -/
def HasEntry (entries : List (Node × Node)) (text : String) (key : Key) (content : Node) : Prop :=
  ∃ tag mark, (scalar tag text mark, content) ∈ entries ∧ scalarKey tag text mark = .ok key

/-- The content of a key that is written with this text stands under this value in the data: that of
the key itself, or of another mention of the same key, which came first. -/
def ReadAs (entries : List (Node × Node)) (read : Value) (text : String) (content : Node) : Prop :=
  ∃ key first, HasEntry entries text key content ∧ (∃ text' other, HasEntry entries text' first other) ∧
    (first = key ∨ Key.same first key = true) ∧ read = first.value

/-- Each entry that is read comes of an entry under a scalar. -/
theorem exists_of_mem_entryValues {nodes : List (Node × Node)} {es : List (Key × Value)}
    (h : entryValues nodes = .ok es) {key : Key} {v : Value} (hmem : (key, v) ∈ es) :
    ∃ text content, HasEntry nodes text key content ∧ content.value = .ok v := by
  induction nodes generalizing es with
  | nil =>
      cases h
      cases hmem
  | cons e rest ih =>
      unfold entryValues at h
      split at h
      · next heq => cases heq
      · next tag text mark content more heq =>
          cases heq
          obtain ⟨k, hk, h⟩ := bind_eq_ok_iff.mp h
          obtain ⟨w, hw, h⟩ := bind_eq_ok_iff.mp h
          obtain ⟨others, hothers, h⟩ := bind_eq_ok_iff.mp h
          cases h
          rcases List.mem_cons.mp hmem with heq | hmem
          · cases heq
            exact ⟨text, content, ⟨tag, mark, List.mem_cons_self, hk⟩, hw⟩
          · obtain ⟨text', content', ⟨tag', mark', hentry, hkey⟩, hvalue⟩ := ih hothers hmem
            exact ⟨text', content', ⟨tag', mark', List.mem_cons_of_mem _ hentry, hkey⟩, hvalue⟩
      · cases h

/-- The entries of a mapping are those of the nodes, as far as later ones have not replaced
them. -/
theorem readAs_of_mem_mapOf {nodes : List (Node × Node)} {es : List (Key × Value)}
    (h : entryValues nodes = .ok es) {read v : Value} (hmem : (read, v) ∈ mapOf es) :
    ∃ text content, ReadAs nodes read text content ∧ content.value = .ok v := by
  obtain ⟨⟨first, c⟩, hentry, heq⟩ := List.mem_map.mp hmem
  obtain ⟨rfl, rfl⟩ := Prod.mk.inj heq
  obtain ⟨⟨old, hold⟩, key, hwritten, hsame⟩ := Table.mem_ofEntries hentry
  obtain ⟨text', other, hother, -⟩ := exists_of_mem_entryValues h hold
  obtain ⟨text, content, hcontent, hvalue⟩ := exists_of_mem_entryValues h hwritten
  exact ⟨text, content, ⟨key, first, hcontent, ⟨text', other, hother⟩, hsame, rfl⟩, hvalue⟩

/-- A text as a key stands for itself. -/
theorem value_of_entry {nodes : List (Node × Node)} (hkeys : ∀ e ∈ nodes, e.1.IsText)
    {text : String} {key : Key} {content : Node} (h : HasEntry nodes text key content) :
    key.value = .text text := by
  obtain ⟨tag, mark, hmem, hkey⟩ := h
  obtain ⟨text', mark', heq⟩ := hkeys _ hmem
  cases heq
  cases hkey
  rfl

/-- Where all keys are texts, a content stands under the text that is written. -/
theorem eq_text_of_readAs {nodes : List (Node × Node)} (hkeys : ∀ e ∈ nodes, e.1.IsText)
    {read : Value} {text : String} {content : Node} (h : ReadAs nodes read text content) :
    read = .text text := by
  obtain ⟨key, first, hcontent, ⟨text', other, hother⟩, hsame, rfl⟩ := h
  have hkey := value_of_entry hkeys hcontent
  have hfirst := value_of_entry hkeys hother
  rcases hsame with rfl | hsame
  · exact hkey
  · unfold Key.same at hsame
    rw [hfirst, hkey] at hsame
    rw [hfirst]
    exact congrArg Value.text (by simpa [Value.sameScalar, Value.isNotANumber] using hsame)

end Node

end BuildSpec.Yaml
