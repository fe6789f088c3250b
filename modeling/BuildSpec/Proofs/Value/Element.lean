import BuildSpec.Pointer
import BuildSpec.Value.Equal
import BuildSpec.Value.Text

/-!
# Elements of data

A row of keys and positions leads from a value to one of its elements, through mappings and lists.
Pointers are made of such rows.  This file says when there is anything at the end of a row.

Keys that are no texts stand in a row by the texts that are written for them.  So a row that is told
leads to an element too, but not always to one only:

* `Told.at` — where all keys are texts, a row that is told is one of keys and positions.
-/

namespace BuildSpec.Value

/-- A row of keys and positions leads from a value to an element of it. -/
inductive At : Value → List String → Value → Prop
  | here {v : Value} : At v [] v
  | field {entries : Entries} {key : String} {way : List String} {v u : Value}
      (hmem : (text key, v) ∈ entries) (h : At v way u) : At (map entries) (key :: way) u
  | item {items : List Value} {i : Nat} {way : List String} {v u : Value}
      (hitem : items[i]? = some v) (h : At v way u) : At (list items) (toString i :: way) u

/-- There is something at the end of a row of keys and positions. -/
def Has (v : Value) (way : List String) : Prop := ∃ u, v.At way u

/-- A value in which all keys of mappings are texts, as far as rows of keys and positions lead. -/
def TextKeyed (v : Value) : Prop :=
  ∀ way entries, v.At way (map entries) → ∀ e ∈ entries, ∃ key, e.1 = text key

/-- A row of tokens as they are told leads from a value to an element of it.  A key is told by the
text that is written for it; the null key may be told without a token. -/
inductive Told : Value → List String → Value → Prop
  | here {v : Value} : Told v [] v
  | entry {entries : Entries} {key : Value} {way : List String} {v u : Value}
      (hmem : (key, v) ∈ entries) (h : Told v way u) : Told (map entries) (key.plain :: way) u
  | unnamed {entries : Entries} {way : List String} {v u : Value}
      (hmem : (null, v) ∈ entries) (h : Told v way u) : Told (map entries) way u
  | item {items : List Value} {i : Nat} {way : List String} {v u : Value}
      (hitem : items[i]? = some v) (h : Told v way u) : Told (list items) (toString i :: way) u

/-- There is something at the end of a row that is told. -/
def IsTold (v : Value) (way : List String) : Prop := ∃ u, v.Told way u

theorem At.append {v u w : Value} {way more : List String} (h : v.At way u) (h' : u.At more w) :
    v.At (way ++ more) w := by
  induction h with
  | here => exact h'
  | field hmem _ ih => exact .field hmem (ih h')
  | item hitem _ ih => exact .item hitem (ih h')

theorem Has.root (v : Value) : v.Has [] := ⟨v, .here⟩

theorem TextKeyed.of_at {v u : Value} {way : List String} (hv : v.TextKeyed) (h : v.At way u) :
    u.TextKeyed :=
  fun more entries hmore => hv (way ++ more) entries (h.append hmore)

theorem TextKeyed.key {entries : Entries} (h : (map entries).TextKeyed) {e : Value × Value}
    (he : e ∈ entries) : ∃ key, e.1 = text key :=
  h [] entries .here e he

theorem TextKeyed.value {entries : Entries} (h : (map entries).TextKeyed) {e : Value × Value}
    (he : e ∈ entries) : e.2.TextKeyed := by
  obtain ⟨key, hkey⟩ := h.key he
  have hmem : (text key, e.2) ∈ entries := hkey ▸ he
  exact h.of_at (.field hmem .here)

/-- An entry of a mapping is an element of it, under the text that is its key. -/
theorem TextKeyed.at_of_mem {entries : Entries} (h : (map entries).TextKeyed) {key v : Value}
    (he : (key, v) ∈ entries) : ∃ name, key = text name ∧ (map entries).At [name] v := by
  obtain ⟨name, hkey⟩ := h.key he
  dsimp only at hkey
  subst hkey
  exact ⟨name, rfl, .field he .here⟩

theorem At.told {v u : Value} {way : List String} (h : v.At way u) : v.Told way u := by
  induction h with
  | here => exact .here
  | field hmem _ ih => exact .entry hmem ih
  | item hitem _ ih => exact .item hitem ih

theorem Told.append {v u w : Value} {way more : List String} (h : v.Told way u)
    (h' : u.Told more w) : v.Told (way ++ more) w := by
  induction h with
  | here => exact h'
  | entry hmem _ ih => exact .entry hmem (ih h')
  | unnamed hmem _ ih => exact .unnamed hmem (ih h')
  | item hitem _ ih => exact .item hitem (ih h')

theorem IsTold.root (v : Value) : v.IsTold [] := ⟨v, .here⟩

theorem Told.isTold {v u : Value} {way more : List String} (h : v.Told way u)
    (h' : u.IsTold more) : v.IsTold (way ++ more) := by
  obtain ⟨w, hw⟩ := h'
  exact ⟨w, h.append hw⟩

/-- **Where all keys are texts, a row that is told is one of keys and positions.** -/
theorem Told.at {v u : Value} {way : List String} (h : v.Told way u) (hv : v.TextKeyed) :
    v.At way u := by
  induction h with
  | here => exact .here
  | entry hmem _ ih =>
      obtain ⟨name, rfl, -⟩ := hv.at_of_mem hmem
      exact .field hmem (ih (hv.value hmem))
  | unnamed hmem _ ih =>
      obtain ⟨name, hname⟩ := hv.key hmem
      cases hname
  | item hitem _ ih => exact .item hitem (ih (hv.of_at (.item hitem .here)))

theorem IsTold.has {v : Value} {way : List String} (h : v.IsTold way) (hv : v.TextKeyed) :
    v.Has way := by
  obtain ⟨u, hu⟩ := h
  exact ⟨u, hu.at hv⟩

/-- A field of a mapping is an entry under the text. -/
theorem mem_of_field? {entries : Entries} {key : String} {v : Value}
    (h : field? entries key = some v) : (text key, v) ∈ entries := by
  obtain ⟨e, he, rfl⟩ := Option.map_eq_some_iff.mp h
  have hkey := List.find?_some he
  have hmem := List.mem_of_find?_eq_some he
  obtain ⟨k, v⟩ := e
  cases k with
  | text s =>
      obtain rfl := eq_of_beq hkey
      exact hmem
  | _ => cases hkey

theorem at_of_field? {entries : Entries} {key : String} {v : Value}
    (h : field? entries key = some v) : (map entries).At [key] v :=
  .field (mem_of_field? h) .here

/-- A field that is not null is there. -/
theorem field_eq_null_or_at (entries : Entries) (key : String) :
    field entries key = null ∨ (map entries).At [key] (field entries key) := by
  unfold field
  cases h : field? entries key with
  | none => exact .inl rfl
  | some v => exact .inr (at_of_field? h)

end BuildSpec.Value
