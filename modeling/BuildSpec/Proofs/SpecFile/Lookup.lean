import BuildSpec.Proofs.SpecFile.Located

/-!
# The search behind each location

The place of a problem is searched for from its pointer on, outwards, and the search for a text that
is no pointer may go on for ever.  A check only ever searches for pointers:

* `found_of_inspect` — every problem that a check locates has a pointer made of tokens, and the place
  at which the search for it ends;
* `search_finds_nearest` — the search for a pointer ends at the nearest element with a place, of
  which there always is one in a document.
-/

namespace BuildSpec.SpecFile

/-- A problem is told at the place that the search for its pointer, a row of tokens, ends at. -/
def IsFoundIn (places : SourceMap) (p : Problem) : Prop :=
  ∃ tokens, p.pointer.getD "" = Pointer.encode tokens ∧
    places.Finds (Pointer.encode tokens) ⟨p.line, p.column⟩

/-- A defect is about an element that a row of tokens leads to. -/
theorem exists_tokens_of_defect (d : Defect) : ∃ tokens, d.pointer = Pointer.encode tokens := by
  cases d with
  | invalidBuildSettingConfig | invalidSettingsGroup | invalidConfigFileConfig => exact ⟨[], rfl⟩
  | _ => exact ⟨_, rfl⟩

/-- **All that a check searches for are pointers**, and the places of its problems are those at which
the searches end. -/
theorem found_of_inspect {around : Surroundings} {path : Path} {content : Content} :
    ∀ e ∈ (inspect around path content).problems, IsOfStage e.2 ∨ IsFoundIn content.places e.2 := by
  intro e he
  rcases problems_of_inspect e he with hstage | ⟨tokens, message, kind, hproblem, -⟩
  · exact .inl hstage
  · rw [hproblem]
    refine .inr ⟨tokens, getD_pointer_problemAt _ _ _ _, ?_⟩
    rw [place_problemAt]
    exact content.places.finds_nearest (Pointer.isPointer_encode tokens)

/-! ## The places of a document -/

section Document

variable {n : Yaml.Node}

/-- What is recorded for a document is known, and has a pointer. -/
theorem isPointer_of_mem_sourceMap {e : String × Place} (he : e ∈ n.sourceMap) :
    Pointer.IsPointer e.1 ∧ ∃ mark, e.2 = Yaml.Node.placeOf mark := by
  obtain ⟨way, m, mark, -, -, rfl⟩ := Yaml.Node.exists_at_of_mem_sourceMap he
  exact ⟨Pointer.isPointer_encode way, mark, rfl⟩

theorem known_of_mem_sourceMap {e : String × Place} (he : e ∈ n.sourceMap) :
    e.2.isKnown = true := by
  obtain ⟨-, mark, hmark⟩ := isPointer_of_mem_sourceMap he
  rw [hmark]
  rfl

/-- The tree of a document is not cut at its root. -/
theorem exists_mark_of_tree (g : Yaml.Graph) : ∃ mark, g.tree.mark? = some mark := by
  unfold Yaml.Graph.tree Yaml.Graph.treeFrom
  dsimp only
  split
  · next hempty => cases hempty
  · split <;> exact ⟨_, rfl⟩

variable {mark : Yaml.Mark} (hmark : n.mark? = some mark)

include hmark

/-- The root of a document is recorded. -/
theorem lookup_root : n.sourceMap.lookup "" = some (Yaml.Node.placeOf mark) :=
  Yaml.Node.lookup_sourceMap_of_lastAt .here hmark

/-- In a document something is found for every pointer. -/
theorem finds_in_document {pointer : String} (h : Pointer.IsPointer pointer) :
    ∃ line column, n.sourceMap.Finds pointer ⟨some line, some column⟩ := by
  have hfinds := n.sourceMap.finds_nearest h
  rcases SourceMap.isNearest_nearest (m := n.sourceMap) (fun e he => known_of_mem_sourceMap he) h
    with ⟨outer, -, hplace, -⟩ | ⟨hnone, -⟩
  · obtain ⟨-, found, hfound⟩ := isPointer_of_mem_sourceMap (SourceMap.mem_of_lookup hplace)
    dsimp only at hfound
    rw [hfound] at hfinds
    exact ⟨_, _, hfinds⟩
  · have hroot := hnone "" h.encloses_empty
    rw [lookup_root hmark] at hroot
    cases hroot

/-- In a document nothing is ever found for a text that is no pointer. -/
theorem locate_in_document_eq_none {pointer : String} (h : ¬ Pointer.IsPointer pointer)
    (rounds : Nat) : n.sourceMap.locate rounds pointer = none := by
  have hnonempty : n.sourceMap.isEmpty = false := by
    rw [List.isEmpty_eq_false_iff]
    intro hempty
    have hroot := lookup_root hmark
    rw [hempty] at hroot
    cases hroot
  have hnone : ∀ outer, Pointer.Encloses outer pointer → n.sourceMap.lookup outer = none := by
    intro outer houter
    cases hplace : n.sourceMap.lookup outer with
    | none => rfl
    | some place =>
        obtain ⟨hpointer, -⟩ := isPointer_of_mem_sourceMap (SourceMap.mem_of_lookup hplace)
        exact absurd hpointer (houter.not_isPointer h)
  have hsearch := (SourceMap.search_eq_none_iff (m := n.sourceMap)
    (fun e he => known_of_mem_sourceMap he) h).mpr hnone
  rw [SourceMap.locate, hnonempty, if_neg Bool.false_ne_true, hsearch rounds]
  rfl

end Document

/-- **The search for a pointer ends at the nearest element with a place.**  Of the pointer itself and
what is left when its parts are dropped one after another, the longest text that is recorded counts;
nothing is known if none is.  For a row of tokens these texts are the pointers of the element and of
the elements around.  All that a check searches for are such pointers, in particular those of
defects and of the issues of a schema.  A document in which no collection is inside itself has a
source map, and in the source map of a document each search for a pointer comes to a line.  A text
that is no pointer is searched for without end unless it comes upon a recorded one, which it never
does in the source map of a document. -/
theorem search_finds_nearest :
    (∀ (m : SourceMap) (pointer : String), (∀ e ∈ m, e.2.isKnown = true) →
      Pointer.IsPointer pointer →
        m.Finds pointer (m.nearest pointer) ∧ m.IsNearest pointer (m.nearest pointer) ∧
          (m.nearest pointer = .unknown ↔
            ∀ outer, Pointer.Encloses outer pointer → m.lookup outer = none)) ∧
    (∀ (tokens : List String) (outer : String), Pointer.Encloses outer (Pointer.encode tokens) ↔
      ∃ n ≤ tokens.length, outer = Pointer.encode (tokens.take n)) ∧
    ((∀ d : Defect, ∃ tokens, d.pointer = Pointer.encode tokens) ∧
      (∀ i : Schema.Issue, ∃ tokens, i.pointer = Pointer.encode tokens) ∧
      ∀ (around : Surroundings) (path : Path) (content : Content),
        ∀ e ∈ (inspect around path content).problems,
          IsOfStage e.2 ∨ IsFoundIn content.places e.2) ∧
    (∀ (text : String) (g : Yaml.Graph), Yaml.Graph.ofText text = .ok (some g) →
      (¬ g.HoldsItself → ∃ places, Yaml.sourceMap text = .ok places) ∧
      ∀ places, Yaml.sourceMap text = .ok places →
        (∀ pointer, Pointer.IsPointer pointer →
          ∃ line column, places.Finds pointer ⟨some line, some column⟩) ∧
        ∀ pointer, ¬ Pointer.IsPointer pointer → ∀ rounds, places.locate rounds pointer = none) ∧
    ∀ (m : SourceMap) (pointer : String), m ≠ [] → (∀ e ∈ m, e.2.isKnown = true) →
      ¬ Pointer.IsPointer pointer →
        ((∀ rounds, m.locate rounds pointer = none) ↔
          ∀ outer, Pointer.Encloses outer pointer → m.lookup outer = none) := by
  refine ⟨fun m pointer hknown h => ?_, fun tokens outer => Pointer.encloses_encode_iff,
    ⟨exists_tokens_of_defect, fun i => ⟨i.path, rfl⟩, fun around path content => found_of_inspect⟩,
    fun text g hdocument => ?_, fun m pointer hne hknown h => ?_⟩
  · exact ⟨m.finds_nearest h, SourceMap.isNearest_nearest hknown h,
      SourceMap.nearest_eq_unknown_iff hknown h⟩
  · refine ⟨fun hfinite => ⟨_, Yaml.sourceMap_of_not_holdsItself hdocument hfinite⟩,
      fun places hplaces => ?_⟩
    obtain rfl := Yaml.eq_sourceMap_of_ok hdocument hplaces
    obtain ⟨mark, hmark⟩ := exists_mark_of_tree g
    exact ⟨fun pointer h => finds_in_document hmark h,
      fun pointer h => locate_in_document_eq_none hmark h⟩
  · rw [← SourceMap.search_eq_none_iff hknown h]
    have hnonempty : m.isEmpty = false := List.isEmpty_eq_false_iff.mpr hne
    simp only [SourceMap.locate, hnonempty, Bool.false_eq_true, if_false, Option.map_eq_none_iff]

/-- A source map in which only the root and the targets are recorded. -/
def targetsMap : SourceMap := [("", ⟨some 1, some 1⟩), ("/targets", ⟨some 2, some 3⟩)]

/-- The sources of a target are looked for at the targets. -/
theorem sources_found_at_targets : (∀ e ∈ targetsMap, e.2.isKnown = true) ∧
    Pointer.IsPointer "/targets/App/sources" ∧
      targetsMap.Finds "/targets/App/sources" ⟨some 2, some 3⟩ := by
  have hknown : ∀ e ∈ targetsMap, e.2.isKnown = true := by decide
  have hpointer : Pointer.IsPointer "/targets/App/sources" := Or.inr ⟨_, rfl⟩
  obtain ⟨hfinds, -, -⟩ := search_finds_nearest.1 targetsMap _ hknown hpointer
  have hplace : targetsMap.nearest "/targets/App/sources" = ⟨some 2, some 3⟩ := by decide
  rw [hplace] at hfinds
  exact ⟨hknown, hpointer, hfinds⟩

end BuildSpec.SpecFile
