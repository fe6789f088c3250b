import BuildSpec.Proofs.Pointer
import BuildSpec.Proofs.Table
import BuildSpec.SourceMap.Search

/-!
# What is found in a source map

A source map holds the place that was recorded last for a pointer.  Where none was recorded, the
nearest element around counts, and it is searched for in rounds:

* `lookup_ofList` — of several places that are recorded for one pointer the last one stands;
* `search_eq_nearest` — for a pointer the search ends, after no more rounds than the pointer has
  characters and one, and comes to the nearest place;
* `isNearest_nearest` — which is the place of the longest text with one among those that the pointer
  shrinks to;
* `search_eq_none_iff` — for any other text it ends only if it comes upon a place.
-/

namespace BuildSpec.SourceMap

variable {m : SourceMap} {pointer : String}

/-! ## Recorded places -/

/-- A source map is a table of places. -/
theorem record_eq_put (m : SourceMap) (pointer : String) (place : Place) :
    m.record pointer place = Table.put (· == ·) m pointer place := by
  induction m with
  | nil => rfl
  | cons e rest ih =>
      obtain ⟨p, old⟩ := e
      rw [record, Table.put, ih]
      simp only [beq_iff_eq]

theorem ofList_eq_ofEntries (places : List (String × Place)) :
    ofList places = Table.ofEntries (· == ·) places := by
  simp only [ofList, Table.ofEntries, record_eq_put]

theorem mem_of_mem_ofList {places : List (String × Place)} {e : String × Place}
    (h : e ∈ ofList places) : e ∈ places := by
  obtain ⟨p, place⟩ := e
  rw [ofList_eq_ofEntries] at h
  obtain ⟨-, key, hmem, rfl | hsame⟩ := Table.mem_ofEntries h
  · exact hmem
  · rwa [eq_of_beq hsame]

/-- Of several places for one pointer the last one stands. -/
theorem lookup_ofList (places : List (String × Place)) (pointer : String) :
    (ofList places).lookup pointer = places.reverse.lookup pointer := by
  rw [ofList_eq_ofEntries, Table.lookup_ofEntries]

/-- No pointer has two entries. -/
theorem nodup_ofList (places : List (String × Place)) : ((ofList places).map Prod.fst).Nodup := by
  rw [ofList_eq_ofEntries]
  exact Table.nodup_keys_ofEntries places

/-- What is recorded later comes first. -/
theorem lookup_ofList_append (before after : List (String × Place)) (pointer : String) :
    (ofList (before ++ after)).lookup pointer =
      ((ofList after).lookup pointer).or ((ofList before).lookup pointer) := by
  rw [lookup_ofList, lookup_ofList, lookup_ofList, List.reverse_append, List.lookup_append]

theorem lookup_ofList_cons (e : String × Place) (places : List (String × Place)) (pointer : String) :
    (ofList (e :: places)).lookup pointer =
      ((ofList places).lookup pointer).or (if pointer == e.1 then some e.2 else none) := by
  rw [lookup_ofList, lookup_ofList, Table.lookup_reverse_cons]

theorem lookup_ofList_eq_none {places : List (String × Place)} (h : ∀ e ∈ places, e.1 ≠ pointer) :
    (ofList places).lookup pointer = none := by
  rw [lookup_ofList, List.lookup_eq_none_iff]
  intro e he
  simpa using Ne.symm (h e (List.mem_reverse.mp he))

/-- What is found under a pointer has been recorded for it. -/
theorem mem_of_lookup {place : Place} (h : m.lookup pointer = some place) :
    (pointer, place) ∈ m := by
  obtain ⟨before, after, rfl, -⟩ := List.lookup_eq_some_iff.mp h
  simp

/-- A pointer that has been recorded is found, at one of the places that were recorded for it. -/
theorem exists_lookup_of_mem {places : List (String × Place)} (h : pointer ∈ places.map Prod.fst) :
    ∃ place, (ofList places).lookup pointer = some place ∧ (pointer, place) ∈ places := by
  rw [lookup_ofList]
  cases hlookup : places.reverse.lookup pointer with
  | none =>
      obtain ⟨e, he, rfl⟩ := List.mem_map.mp h
      have hother := List.lookup_eq_none_iff.mp hlookup e (List.mem_reverse.mpr he)
      simp at hother
  | some place => exact ⟨place, rfl, List.mem_reverse.mp (mem_of_lookup hlookup)⟩

/-! ## The nearest place -/

theorem find?_nil (pointer : String) : find? [] pointer = none := rfl

/-- Where every place is known, what is recorded is what counts. -/
theorem find?_eq_lookup (hknown : ∀ e ∈ m, e.2.isKnown = true) (pointer : String) :
    m.find? pointer = m.lookup pointer := by
  rw [find?]
  cases hlookup : m.lookup pointer with
  | none => rfl
  | some place =>
      have hplace : place.isKnown = true := hknown _ (mem_of_lookup hlookup)
      rw [Option.filter_some, if_pos hplace]

/-- Either the pointer has a place, or the nearest one is that of what is left without its last
part. -/
theorem nearest_of_isPointer (h : Pointer.IsPointer pointer) :
    m.nearest pointer = match m.find? pointer with
      | some place => place
      | none => if pointer = "" then .unknown else m.nearest (Pointer.dropLast pointer) := by
  rw [nearest, Pointer.enclosing_of_isPointer h, List.findSome?_cons]
  cases m.find? pointer with
  | some place => rfl
  | none =>
      by_cases hempty : pointer = ""
      · rw [if_pos hempty, if_pos hempty]
        rfl
      · rw [if_neg hempty, if_neg hempty]
        rfl

/-- A pointer with a known place is not looked for any further. -/
theorem nearest_eq_of_lookup {place : Place} (hpointer : Pointer.IsPointer pointer)
    (h : m.lookup pointer = some place) (hknown : place.isKnown = true) :
    m.nearest pointer = place := by
  have hfind : m.find? pointer = some place := by
    rw [find?, h, Option.filter_some, if_pos hknown]
  rw [nearest_of_isPointer hpointer, hfind]

/-! ## The search -/

/-- **The search for a pointer ends**, and comes to the nearest place. -/
theorem search_eq_nearest (h : Pointer.IsPointer pointer) {rounds : Nat}
    (hrounds : pointer.length < rounds) : m.search rounds pointer = some (m.nearest pointer) := by
  induction rounds generalizing pointer with
  | zero => exact absurd hrounds (Nat.not_lt_zero _)
  | succ rounds ih =>
      rw [search, nearest_of_isPointer h]
      cases m.find? pointer with
      | some place => rfl
      | none =>
          by_cases hempty : pointer = ""
          · simp [hempty]
          · obtain ⟨hleft, hshorter⟩ := h.dropLast hempty
            simp only [hempty, if_false]
            exact ih hleft (by omega)

/-- A location is found with so many rounds as a pointer has characters, and one. -/
def Finds (m : SourceMap) (pointer : String) (place : Place) : Prop :=
  ∀ rounds, pointer.length < rounds → m.locate rounds pointer = some ⟨none, some pointer, place⟩

theorem finds_nearest (m : SourceMap) (h : Pointer.IsPointer pointer) :
    m.Finds pointer (m.nearest pointer) := by
  intro rounds hrounds
  rw [locate]
  cases m with
  | nil =>
      have hnone : nearest [] pointer = .unknown := by
        rw [nearest, List.findSome?_eq_none_iff.mpr fun p _ => find?_nil p]
        rfl
      rw [hnone]
      rfl
  | cons e rest => rw [search_eq_nearest h hrounds]; rfl

/-- A place is that of the longest text with a place among those that a text shrinks to, or unknown
if none of them has one. -/
def IsNearest (m : SourceMap) (pointer : String) (place : Place) : Prop :=
  (∃ outer, Pointer.Encloses outer pointer ∧ m.lookup outer = some place ∧
      ∀ other, Pointer.Encloses other pointer → (m.lookup other).isSome →
        other.length ≤ outer.length) ∨
    (∀ outer, Pointer.Encloses outer pointer → m.lookup outer = none) ∧ place = .unknown

/-- The nearest place deserves its name. -/
theorem isNearest_nearest (hknown : ∀ e ∈ m, e.2.isKnown = true) (h : Pointer.IsPointer pointer) :
    m.IsNearest pointer (m.nearest pointer) := by
  -- the induction is on the number of characters that may still be dropped
  induction hlength : pointer.length using Nat.strongRecOn generalizing pointer with
  | ind n ih =>
    subst hlength
    rw [nearest_of_isPointer h, find?_eq_lookup hknown]
    cases hlookup : m.lookup pointer with
    | some place =>
        exact Or.inl ⟨pointer, .refl pointer, hlookup, fun other hother _ => hother.length_le⟩
    | none =>
        by_cases hempty : pointer = ""
        · subst hempty
          refine Or.inr ⟨fun outer houter => ?_, by simp⟩
          rw [Pointer.encloses_empty_iff.mp houter, hlookup]
        · obtain ⟨hleft, hshorter⟩ := h.dropLast hempty
          simp only [hempty, if_false]
          rcases ih _ hshorter hleft rfl with ⟨outer, houter, hplace, hlongest⟩ | ⟨hnone, hunknown⟩
          · refine Or.inl ⟨outer, Pointer.encloses_iff.mpr (Or.inr houter), hplace, ?_⟩
            intro other hother hsome
            rcases Pointer.encloses_iff.mp hother with rfl | hother
            · rw [hlookup] at hsome
              cases hsome
            · exact hlongest other hother hsome
          · refine Or.inr ⟨fun outer houter => ?_, hunknown⟩
            rcases Pointer.encloses_iff.mp houter with rfl | houter
            · exact hlookup
            · exact hnone outer houter

/-- Nothing at all is known of the nearest place just when nothing is recorded on the way. -/
theorem nearest_eq_unknown_iff (hknown : ∀ e ∈ m, e.2.isKnown = true)
    (h : Pointer.IsPointer pointer) :
    m.nearest pointer = .unknown ↔
      ∀ outer, Pointer.Encloses outer pointer → m.lookup outer = none := by
  constructor
  · intro hunknown
    rcases isNearest_nearest hknown h with ⟨outer, -, hplace, -⟩ | ⟨hnone, -⟩
    · have hsome : (m.nearest pointer).isKnown = true := hknown _ (mem_of_lookup hplace)
      rw [hunknown] at hsome
      cases hsome
    · exact hnone
  · intro hnone
    rcases isNearest_nearest hknown h with ⟨outer, houter, hplace, -⟩ | ⟨-, hunknown⟩
    · rw [hnone outer houter] at hplace
      cases hplace
    · exact hunknown

/-- A search that comes upon a place ends there. -/
theorem exists_search_of_encloses (hknown : ∀ e ∈ m, e.2.isKnown = true) {outer : String}
    {place : Place} (houter : Pointer.Encloses outer pointer) (hplace : m.lookup outer = some place) :
    ∃ rounds found, m.search rounds pointer = some found := by
  obtain ⟨n, rfl⟩ := houter
  induction n generalizing pointer with
  | zero =>
      have hplace : m.lookup pointer = some place := hplace
      exact ⟨1, place, by rw [search, find?_eq_lookup hknown, hplace]⟩
  | succ n ih =>
      obtain ⟨rounds, found, hfound⟩ := ih hplace
      cases hfind : m.find? pointer with
      | some first => exact ⟨1, first, by rw [search, hfind]⟩
      | none =>
          by_cases hempty : pointer = ""
          · exact ⟨1, .unknown, by rw [search, hfind]; simp [hempty]⟩
          · exact ⟨rounds + 1, found, by rw [search, hfind]; simpa [hempty] using hfound⟩

/-- **The search for a text that is no pointer** never ends, unless it comes upon a place. -/
theorem search_eq_none_iff (hknown : ∀ e ∈ m, e.2.isKnown = true)
    (h : ¬ Pointer.IsPointer pointer) :
    (∀ rounds, m.search rounds pointer = none) ↔
      ∀ outer, Pointer.Encloses outer pointer → m.lookup outer = none := by
  constructor
  · intro hendless outer houter
    cases hplace : m.lookup outer with
    | none => rfl
    | some place =>
        obtain ⟨rounds, found, hfound⟩ := exists_search_of_encloses hknown houter hplace
        rw [hendless rounds] at hfound
        cases hfound
  · intro hnone rounds
    induction rounds generalizing pointer with
    | zero => rfl
    | succ rounds ih =>
        have hempty : pointer ≠ "" := fun hempty => h (Or.inl hempty)
        have hfind : m.find? pointer = none := by
          rw [find?_eq_lookup hknown, hnone pointer (.refl pointer)]
        rw [search, hfind]
        simp only [hempty, if_false]
        exact ih (Pointer.not_isPointer_dropLast h) fun outer houter =>
          hnone outer (Pointer.encloses_iff.mpr (Or.inr houter))

end BuildSpec.SourceMap
