import BuildSpec.Proofs.SpecFile.Located

/-!
# Errors under keys that are no texts

A key may be any scalar: a truth value, a number, a day.  Its value is written out for the pointer
of an error, while the place of the entry is recorded under the text in the file.  So an error may
have another pointer than the entry that it is about:

* `errors_told_under_read_keys` — each error about the data is about a node in the file, and is
  located there if the keys on the way are written out as they stand in the file;
* `switch_key_is_lost` — a key for which this is not so.
-/

namespace BuildSpec.SpecFile

/-- What is told with a row of tokens is recorded under another one, and starts at this mark. -/
def IsRecordedAs (root : Yaml.Node) (told written : List String) (mark : Yaml.Mark) : Prop :=
  ∃ m, root.Tells told written m ∧ m.mark? = some mark ∧
    (∃ mark', root.sourceMap.lookup (Pointer.encode written) =
      some (Yaml.Node.placeOf mark')) ∧
    (root.HasDistinctKeys → root.sourceMap.lookup (Pointer.encode written) =
      some (Yaml.Node.placeOf mark))

/-- All that can be told of a value stands in the tree that the value is read from. -/
theorem isRecordedAs_of_isTold {root : Yaml.Node} {v : Value} {told : List String}
    (hkeyed : root.isScalarKeyed = true) (hvalue : root.value = .ok v) (htold : v.IsTold told) :
    ∃ written mark, IsRecordedAs root told written mark := by
  obtain ⟨u, hu⟩ := htold
  obtain ⟨written, m, hm, -⟩ := Yaml.Node.exists_tells_of_told hu hvalue
  obtain ⟨mark, hmark⟩ := Yaml.Node.exists_mark_of_isScalarKeyed
    (Yaml.Node.isScalarKeyed_of_at hm.at hkeyed)
  exact ⟨written, mark, m, hm, hmark, Yaml.Node.exists_lookup_of_at hm.at hmark,
    fun hdistinct => Yaml.Node.lookup_sourceMap_of_lastAt (hdistinct.lastAt hm.at) hmark⟩

section Document

variable {origin : Origin} {text : String} {g : Yaml.Graph}
  (hdocument : Yaml.Graph.ofText text = .ok (some g)) (hkeyed : g.tree.isScalarKeyed = true)

include hdocument hkeyed

/-- All that can be told of the data of a file stands in its document. -/
theorem isRecordedAs_of_dataOf {data : Entries} (h : dataOf origin text = .ok data)
    {told : List String} (htold : (Value.map data).IsTold told) :
    ∃ written mark, IsRecordedAs g.tree told written mark := by
  rcases exists_of_dataOf h with ⟨hnone, -⟩ | ⟨g', s, v, hsome, hsettle, hvalue, hdata⟩
  · rw [hdocument] at hnone
    cases hnone
  rw [hdocument] at hsome
  cases hsome
  rw [Yaml.Graph.settled_tree_eq hkeyed hsettle] at hvalue
  rcases hdata with rfl | ⟨rfl, rfl⟩
  · exact isRecordedAs_of_isTold hkeyed hvalue htold
  · -- a document that is null counts as an empty mapping, of which only the root can be told
    obtain ⟨u, hu⟩ := htold
    cases hu with
    | here => exact isRecordedAs_of_isTold hkeyed hvalue (.root _)
    | entry hmem => cases hmem
    | unnamed hmem => cases hmem

end Document

/-- **Errors are told under keys as they are read.**  Let the content that is loaded be that of a text
with a document that is a finite tree with scalars as keys, none of which is a mark of a merge or of a
default.  All that can be told of its data is recorded in the source map under the texts of the keys
in the file.  Every error of a version, of the schema or of the audit has a pointer with the texts
that are written for the values of the keys, and the place nearest to this pointer.  The two pointers
are the same just if each key on the way is written out as it stands in the file; then, without
repeated keys, the error has the place of the very node that it is about. -/
theorem errors_told_under_read_keys (around : Surroundings) (tree : FileTree) (l : Loader)
    (path : Path) (text : String) (g : Yaml.Graph)
    (hload : (l.load tree path).result = Content.ofText (.file path) text)
    (hdocument : Yaml.Graph.ofText text = .ok (some g)) (hkeyed : g.tree.isScalarKeyed = true) :
    Yaml.sourceMap text = .ok g.tree.sourceMap ∧
    (∀ data, dataOf (.file path) text = .ok data → ∀ told, (Value.map data).IsTold told →
      ∃ written mark, IsRecordedAs g.tree told written mark) ∧
    ∀ p ∈ (checkFile around tree l path).report.errors, IsAboutData p →
      ∃ told written mark, p.pointer.getD "" = Pointer.encode told ∧
        IsRecordedAs g.tree told written mark ∧
        (Pointer.encode told = Pointer.encode written ↔ told = written) ∧
        (⟨p.line, p.column⟩ : Place) = g.tree.sourceMap.nearest (Pointer.encode told) ∧
        (told = written → g.tree.HasDistinctKeys →
          (⟨p.line, p.column⟩ : Place) = Yaml.Node.placeOf mark) := by
  have hplaces := Yaml.sourceMap_of_isScalarKeyed hdocument hkeyed
  refine ⟨hplaces, fun data hdata told => isRecordedAs_of_dataOf hdocument hkeyed hdata, ?_⟩
  intro p hp habout
  rw [mem_errors_checkFile_iff, hload] at hp
  cases hcontent : Content.ofText (.file path) text with
  | error fault =>
      rw [hcontent] at hp
      cases List.mem_singleton.mp hp
      exact absurd habout (not_isAboutData_load _ fault)
  | ok content =>
      rw [hcontent] at hp
      obtain ⟨hdata, hsource⟩ := ofText_eq_ok_iff.mp hcontent
      obtain ⟨told, hpointer, htold, hplace⟩ := told_of_inspect hp habout
      rw [hplaces] at hsource
      rw [← Except.ok.inj hsource] at hplace
      obtain ⟨written, mark, hrecorded⟩ := isRecordedAs_of_dataOf hdocument hkeyed hdata htold
      refine ⟨told, written, mark, hpointer, hrecorded, Pointer.encode_injective.eq_iff, hplace, ?_⟩
      rintro rfl hdistinct
      obtain ⟨-, -, -, -, hlookup⟩ := hrecorded
      rw [hplace]
      exact SourceMap.nearest_eq_of_lookup (Pointer.isPointer_encode told) (hlookup hdistinct) rfl

/-- A target under a number, with a source that does not exist. -/
def numberText : String := "targets:\n  16:\n    sources: [Missing]\n"

/-- A directory with this spec and nothing else. -/
def numberTree : FileTree := ⟨[(["project.yml"], .file (.ok numberText.toUTF8.toList))], []⟩

/-- A number is written out as it stands in the file, and the error about the source is told at its
own entry. -/
theorem number_key_is_told : ∃ g,
    ((Loader.fresh false).load numberTree (.ofString "project.yml")).result =
        Content.ofText (.file (.ofString "project.yml")) numberText ∧
      Yaml.Graph.ofText numberText = .ok (some g) ∧ g.tree.isScalarKeyed = true ∧
      ∃ p ∈ (checkFile ⟨none, fun _ _ => false, id⟩ numberTree (.fresh false)
          (.ofString "project.yml")).report.errors,
        p.kind = some "missing_target_source" ∧ p.line = some 3 ∧ p.column = some 14 ∧
          ∃ told written mark, p.pointer.getD "" = Pointer.encode told ∧
            IsRecordedAs g.tree told written mark := by
  have hfile : fileAt numberTree (.ofString "project.yml") =
      .ok (.ok numberText.toUTF8.toList) := by decide +kernel
  have htext : Text.readText numberText.toUTF8.toList = .ok numberText := by decide +kernel
  have hload := load_fresh_eq hfile htext
  have hdocument : ((Yaml.Graph.ofText numberText).toOption.getD none).any
      (fun g => g.tree.isScalarKeyed) = true := by decide +kernel
  obtain ⟨g, hg, hkeyed⟩ := exists_of_any hdocument
  have herrors : (checkFile ⟨none, fun _ _ => false, id⟩ numberTree (.fresh false)
      (.ofString "project.yml")).report.errors.map (fun p => (p.kind, p.line, p.column)) =
        [(some "missing_target_source", some 3, some 14)] := by decide +kernel
  obtain ⟨p, hp, heq⟩ := List.mem_map.mp (herrors ▸ List.mem_singleton_self _)
  obtain ⟨hkind, hplace⟩ := Prod.mk.inj heq
  obtain ⟨hline, hcolumn⟩ := Prod.mk.inj hplace
  obtain ⟨-, -, herror⟩ := errors_told_under_read_keys _ _ _ _ numberText g hload hg hkeyed
  obtain ⟨told, written, mark, hpointer, hrecorded, -⟩ :=
    herror p hp (.inr (.inr ⟨.missingTargetSource "16" "Missing", hkind⟩))
  exact ⟨g, hload, hg, hkeyed, p, hp, hkind, hline, hcolumn, told, written, mark, hpointer,
    hrecorded⟩

/-- A target under a key that reads as a truth value, with a source that does not exist. -/
def switchText : String := "targets:\n  on:\n    sources: [Missing]\n"

/-- A directory with this spec and nothing else. -/
def switchTree : FileTree := ⟨[(["project.yml"], .file (.ok switchText.toUTF8.toList))], []⟩

/-- **The pointers of an error and of its entry may drift apart.**  The sources of the target are
recorded, but not under the pointer of the error about them, and the error is told at the place of
all targets. -/
theorem switch_key_is_lost :
    ((Yaml.sourceMap switchText).toOption.getD []).lookup "/targets/on/sources" =
        some ⟨some 3, some 14⟩ ∧
      ((Yaml.sourceMap switchText).toOption.getD []).lookup "/targets/True/sources" = none ∧
      (checkFile ⟨none, fun _ _ => false, id⟩ switchTree (.fresh false)
          (.ofString "project.yml")).report.errors.map (fun p => (p.pointer, p.line, p.column)) =
        [(some "/targets/True/sources", some 2, some 3)] := by
  refine ⟨by decide +kernel, by decide +kernel, by decide +kernel⟩

end BuildSpec.SpecFile
