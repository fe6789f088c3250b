import BuildSpec.Table
import Mathlib.Data.List.Induction
import Mathlib.Data.List.Perm.Subperm

/-!
# What stands in a table

What is found in a table after entries have been written, that no key stands in a table twice, and
where the entries of a table come from.
-/

namespace BuildSpec.Table

variable {κ α : Type}

/-! ## Keys that are equal -/

section Equal

variable [BEq κ] [LawfulBEq κ]

theorem lookup_put (t : List (κ × α)) (key k : κ) (content : α) :
    (put (· == ·) t key content).lookup k =
      if k == key then some content else t.lookup k := by
  induction t with
  | nil =>
      simp only [put, List.lookup_cons, List.lookup_nil]
      cases k == key <;> rfl
  | cons e rest ih =>
      obtain ⟨k', c⟩ := e
      simp only [put]
      by_cases hkey : k' == key
      · obtain rfl := eq_of_beq hkey
        simp only [beq_self_eq_true, if_true, List.lookup_cons]
        cases k == k' <;> rfl
      · simp only [hkey, Bool.false_eq_true, if_false, List.lookup_cons, ih]
        cases hk : k == k' with
        | false => rfl
        | true =>
            have hne : (k == key) = false := by
              rw [eq_of_beq hk]
              exact Bool.eq_false_iff.mpr hkey
            simp [hne]

/-- Writing an entry keeps the keys, with the new one behind them if it was not there. -/
theorem keys_put (t : List (κ × α)) (key : κ) (content : α) :
    (put (· == ·) t key content).map Prod.fst =
      if key ∈ t.map Prod.fst then t.map Prod.fst else t.map Prod.fst ++ [key] := by
  induction t with
  | nil => simp [put]
  | cons e rest ih =>
      by_cases hkey : e.1 = key
      · simp [put, hkey]
      · simp only [put, beq_eq_false_iff_ne.mpr hkey, Bool.false_eq_true, if_false, List.map_cons,
          ih, List.mem_cons, Ne.symm hkey, false_or]
        split <;> rfl

/-- The keys of a table after a key is written do not depend on what stands under the keys. -/
theorem keys_put_eq {β : Type} {t : List (κ × α)} {u : List (κ × β)}
    (h : t.map Prod.fst = u.map Prod.fst) (key : κ) (a : α) (b : β) :
    (put (· == ·) t key a).map Prod.fst = (put (· == ·) u key b).map Prod.fst := by
  rw [keys_put, keys_put, h]

/-- Where no key stands twice, what stands under a key is found. -/
theorem lookup_eq_some_iff_mem {t : List (κ × α)} (hdistinct : (t.map Prod.fst).Nodup) {k : κ}
    {c : α} : t.lookup k = some c ↔ (k, c) ∈ t := by
  rw [List.lookup_eq_some_iff]
  constructor
  · rintro ⟨before, after, rfl, -⟩
    simp
  · intro hmem
    obtain ⟨before, after, rfl⟩ := List.append_of_mem hmem
    refine ⟨before, after, rfl, ?_⟩
    intro e he
    rw [List.map_append, List.map_cons, List.nodup_append] at hdistinct
    have hne : e.1 ≠ k := hdistinct.2.2 e.1 (List.mem_map_of_mem he) k List.mem_cons_self
    simpa using Ne.symm hne

/-- No key stands twice in a table. -/
theorem nodup_keys_ofEntries (entries : List (κ × α)) :
    ((ofEntries (· == ·) entries).map Prod.fst).Nodup := by
  induction entries using List.reverseRecOn with
  | nil => exact List.nodup_nil
  | append_singleton entries e ih =>
      rw [ofEntries, List.foldl_append]
      change ((put (· == ·) (ofEntries (· == ·) entries) e.1 e.2).map Prod.fst).Nodup
      rw [keys_put]
      split
      · exact ih
      · next hnew =>
          refine List.nodup_append.mpr ⟨ih, List.pairwise_singleton _ _, ?_⟩
          intro k hk k' hk' heq
          rw [heq, List.mem_singleton.mp hk'] at hk
          exact hnew hk

/-- The keys of a table are those that have been written. -/
theorem mem_keys_ofEntries {entries : List (κ × α)} {k : κ} :
    k ∈ (ofEntries (· == ·) entries).map Prod.fst ↔ k ∈ entries.map Prod.fst := by
  induction entries using List.reverseRecOn with
  | nil => exact Iff.rfl
  | append_singleton entries e ih =>
      rw [ofEntries, List.foldl_append]
      change k ∈ (put (· == ·) (ofEntries (· == ·) entries) e.1 e.2).map Prod.fst ↔ _
      rw [keys_put, List.map_append, List.map_singleton]
      split
      · next hold =>
          rw [ih, List.mem_append, List.mem_singleton]
          refine ⟨.inl, ?_⟩
          rintro (hk | rfl)
          · exact hk
          · exact ih.mp hold
      · rw [List.mem_append, List.mem_append, ih]

/-- A new key comes last. -/
theorem put_of_not_mem {t : List (κ × α)} {key : κ} {content : α} (hnew : key ∉ t.map Prod.fst) :
    put (· == ·) t key content = t ++ [(key, content)] := by
  induction t with
  | nil => rfl
  | cons e rest ih =>
      rw [List.map_cons, List.mem_cons, not_or] at hnew
      rw [put, beq_eq_false_iff_ne.mpr (Ne.symm hnew.1), if_neg Bool.false_ne_true, ih hnew.2]
      rfl

/-- Entries of which no two have the same key are the table. -/
theorem ofEntries_of_nodup {entries : List (κ × α)} (h : (entries.map Prod.fst).Nodup) :
    ofEntries (· == ·) entries = entries := by
  induction entries using List.reverseRecOn with
  | nil => rfl
  | append_singleton entries e ih =>
      rw [List.map_append, List.nodup_append] at h
      obtain ⟨hearlier, -, hapart⟩ := h
      have hnew : e.1 ∉ entries.map Prod.fst := fun hmem =>
        hapart e.1 hmem e.1 (List.mem_singleton_self _) rfl
      rw [ofEntries, List.foldl_append]
      change put (· == ·) (ofEntries (· == ·) entries) e.1 e.2 = _
      rw [ih hearlier, put_of_not_mem hnew]

/-- **A table has as many entries as have been written exactly if no key was written twice.** -/
theorem length_ofEntries_eq_iff {entries : List (κ × α)} :
    (ofEntries (· == ·) entries).length = entries.length ↔ (entries.map Prod.fst).Nodup := by
  constructor
  · intro hlength
    have hkept : ((ofEntries (· == ·) entries).map Prod.fst).Subperm (entries.map Prod.fst) :=
      (nodup_keys_ofEntries entries).subperm fun k hk => mem_keys_ofEntries.mp hk
    have hperm := hkept.perm_of_length_le (by simp [hlength])
    exact hperm.nodup_iff.mp (nodup_keys_ofEntries entries)
  · intro hdistinct
    rw [ofEntries_of_nodup hdistinct]

omit [LawfulBEq κ] in
/-- The last of several entries under a key is found, if there is one behind the first. -/
theorem lookup_reverse_cons (e : κ × α) (rest : List (κ × α)) (k : κ) :
    (e :: rest).reverse.lookup k =
      (rest.reverse.lookup k).or (if k == e.1 then some e.2 else none) := by
  rw [List.reverse_cons, List.lookup_append, List.lookup_cons, List.lookup_nil]
  cases k == e.1 <;> rfl

/-- What was written last under a key is what stands there. -/
theorem lookup_ofEntries (entries : List (κ × α)) (k : κ) :
    (ofEntries (· == ·) entries).lookup k = entries.reverse.lookup k := by
  induction entries using List.reverseRecOn with
  | nil => rfl
  | append_singleton entries e ih =>
      rw [ofEntries, List.foldl_append]
      change (put (· == ·) (ofEntries (· == ·) entries) e.1 e.2).lookup k = _
      rw [lookup_put, ih, List.reverse_append, List.reverse_singleton, List.singleton_append,
        List.lookup_cons]
      cases k == e.1 <;> rfl

theorem eq_nil_of_lookup {t : List (κ × α)} (h : ∀ k, t.lookup k = none) : t = [] := by
  cases t with
  | nil => rfl
  | cons e rest =>
      have hfirst := h e.1
      rw [List.lookup_cons, beq_self_eq_true] at hfirst
      cases hfirst

end Equal

/-! ## Where entries come from -/

variable {same : κ → κ → Bool}

/-- An entry of a table was there before, or has been written now; its key may be an older one. -/
theorem mem_put {t : List (κ × α)} {key k : κ} {content c : α}
    (h : (k, c) ∈ put same t key content) :
    (k, c) ∈ t ∨ c = content ∧ (k = key ∨ same k key = true ∧ ∃ old, (k, old) ∈ t) := by
  induction t with
  | nil =>
      obtain ⟨rfl, rfl⟩ := Prod.mk.inj (List.mem_singleton.mp h)
      exact .inr ⟨rfl, .inl rfl⟩
  | cons e rest ih =>
      obtain ⟨k', c'⟩ := e
      rw [put] at h
      split at h
      · next hsame =>
          rcases List.mem_cons.mp h with heq | hmem
          · obtain ⟨rfl, rfl⟩ := Prod.mk.inj heq
            exact .inr ⟨rfl, .inr ⟨hsame, c', List.mem_cons_self⟩⟩
          · exact .inl (List.mem_cons_of_mem _ hmem)
      · rcases List.mem_cons.mp h with heq | hmem
        · exact .inl (heq ▸ List.mem_cons_self)
        · rcases ih hmem with hold | ⟨hc, hkey | ⟨hsame, old, hold⟩⟩
          · exact .inl (List.mem_cons_of_mem _ hold)
          · exact .inr ⟨hc, .inl hkey⟩
          · exact .inr ⟨hc, .inr ⟨hsame, old, List.mem_cons_of_mem _ hold⟩⟩

/-- The content of an entry was written under its key, or under one that is the same. -/
theorem mem_ofEntries {entries : List (κ × α)} {k : κ} {c : α}
    (h : (k, c) ∈ ofEntries same entries) :
    (∃ first, (k, first) ∈ entries) ∧
      ∃ key, (key, c) ∈ entries ∧ (k = key ∨ same k key = true) := by
  induction entries using List.reverseRecOn generalizing c with
  | nil => cases h
  | append_singleton entries e ih =>
      have hlast : e ∈ entries ++ [e] := by simp
      rw [ofEntries, List.foldl_append] at h
      rcases mem_put h with hold | ⟨rfl, hkey | ⟨hsame, old, hold⟩⟩
      · obtain ⟨⟨first, hfirst⟩, key, hmem, hkey⟩ := ih hold
        exact ⟨⟨first, List.mem_append_left _ hfirst⟩, key, List.mem_append_left _ hmem, hkey⟩
      · subst hkey
        exact ⟨⟨e.2, hlast⟩, e.1, hlast, .inl rfl⟩
      · obtain ⟨⟨first, hfirst⟩, -⟩ := ih hold
        exact ⟨⟨first, List.mem_append_left _ hfirst⟩, e.1, hlast, .inr hsame⟩

/-! ## Other names for the keys -/

theorem map_put {κ' : Type} {same' : κ' → κ' → Bool} {f : κ → κ'} {key : κ} (content : α)
    {t : List (κ × α)} (h : ∀ e ∈ t, same e.1 key = same' (f e.1) (f key)) :
    (put same t key content).map (fun e => (f e.1, e.2)) =
      put same' (t.map fun e => (f e.1, e.2)) (f key) content := by
  induction t with
  | nil => rfl
  | cons e rest ih =>
      obtain ⟨hfirst, hrest⟩ := List.forall_mem_cons.mp h
      rw [put, List.map_cons, put, ← hfirst]
      split
      · rfl
      · rw [List.map_cons, ih hrest]

/-- A table stays the same under other names for the keys that tell the same keys apart. -/
theorem map_ofEntries {κ' : Type} {same' : κ' → κ' → Bool} (f : κ → κ') {entries : List (κ × α)}
    (h : ∀ a ∈ entries, ∀ b ∈ entries, same a.1 b.1 = same' (f a.1) (f b.1)) :
    (ofEntries same entries).map (fun e => (f e.1, e.2)) =
      ofEntries same' (entries.map fun e => (f e.1, e.2)) := by
  induction entries using List.reverseRecOn with
  | nil => rfl
  | append_singleton entries e ih =>
      have hearlier : ∀ a ∈ entries, a ∈ entries ++ [e] := fun a ha => List.mem_append_left _ ha
      have hlast : e ∈ entries ++ [e] := List.mem_append_right _ (List.mem_singleton_self e)
      rw [ofEntries, List.foldl_append, List.map_append, ofEntries, List.foldl_append]
      change (put same (ofEntries same entries) e.1 e.2).map _ =
        put same' (ofEntries same' (entries.map fun e => (f e.1, e.2))) (f e.1) e.2
      rw [← ih fun a ha b hb => h a (hearlier a ha) b (hearlier b hb)]
      refine map_put e.2 fun old hold => ?_
      obtain ⟨⟨first, hfirst⟩, -⟩ := mem_ofEntries hold
      exact h (old.1, first) (hearlier _ hfirst) e hlast

end BuildSpec.Table
