import BuildSpec.Proofs.SpecFile.Session
import BuildSpec.Proofs.Text.Utf8
import BuildSpec.Proofs.Yaml.Faults
import BuildSpec.SpecFile.Check

/-!
# Files that cannot be loaded

A file that cannot be loaded is reported with one error.  It counts as an error of loading if it is
about the file as a whole: there is no file or it cannot be opened, the document in it is malformed,
or the root of the document is no mapping.  But the bytes of a file need not be text, and a document
that is not malformed may hold something that promises more than it keeps, or a collection that is
inside itself.  Then the error counts as an unforeseen one:

* `dataOf_eq_error_iff`, `ofText_eq_error_iff` — what is wrong with a text;
* `load_eq_error_iff` — what keeps a file from being loaded;
* `exists_load_fault_iff` — which files have a fault of the second kind;
* `inner_faults_are_unforeseen` — how all faults are told, and what those of the second kind are.
-/

namespace BuildSpec.SpecFile

/-! ## Texts -/

/-- A value that is no root of a spec file. -/
def IsNoRoot (v : Value) : Prop := v ≠ .null ∧ ∀ entries, v ≠ .map entries

theorem dataOf_eq_error_iff {origin : Origin} {text : String} {fault : LoadFault} :
    dataOf origin text = .error fault ↔
      (∃ cause, Yaml.load text = .error cause ∧ .document origin text cause = fault) ∨
        ∃ v, Yaml.load text = .ok v ∧ IsNoRoot v ∧ .notAMapping origin v.kindName = fault := by
  unfold dataOf
  rw [bind_eq_error_iff, mapError_eq_error_iff]
  simp only [mapError_eq_ok_iff]
  refine or_congr_right (exists_congr fun v => and_congr_right fun _ => ?_)
  cases v with
  | null => exact ⟨nofun, fun h => absurd rfl h.1.1⟩
  | map entries => exact ⟨nofun, fun h => absurd rfl (h.1.2 entries)⟩
  | _ => exact ⟨fun h => ⟨⟨nofun, nofun⟩, Except.error.inj h⟩, fun h => congrArg _ h.2⟩

theorem exists_dataOf_iff (origin : Origin) {text : String} :
    (∃ data, dataOf origin text = .ok data) ↔ ∃ v, Yaml.load text = .ok v ∧ ¬ IsNoRoot v := by
  unfold dataOf
  simp only [bind_eq_ok_iff, mapError_eq_ok_iff]
  rw [exists_comm]
  refine exists_congr fun v => exists_and_left.trans (and_congr_right fun _ => ?_)
  cases v with
  | null => exact ⟨fun _ h => h.1 rfl, fun _ => ⟨_, rfl⟩⟩
  | map entries => exact ⟨fun _ h => h.2 entries rfl, fun _ => ⟨_, rfl⟩⟩
  | _ => exact ⟨nofun, fun h => absurd ⟨nofun, nofun⟩ h⟩

/-- The places of a text keep it from being loaded only if there is no end of them. -/
theorem ofText_eq_error_iff {origin : Origin} {text : String} {fault : LoadFault} :
    Content.ofText origin text = .error fault ↔
      dataOf origin text = .error fault ∨
        (∃ data, dataOf origin text = .ok data) ∧ Yaml.IsBottomless text ∧
          .document origin text .bottomless = fault := by
  have hplaces : ∀ {data}, dataOf origin text = .ok data → ∀ {cause},
      Yaml.sourceMap text = .error cause ↔ Yaml.IsBottomless text ∧ .bottomless = cause := by
    intro data hdata
    obtain ⟨v, hload, -⟩ := bind_eq_ok_iff.mp hdata
    exact Yaml.sourceMap_eq_error_iff (mapError_eq_ok_iff.mp hload)
  unfold Content.ofText
  rw [bind_eq_error_iff]
  refine or_congr_right ⟨?_, ?_⟩
  · rintro ⟨data, hdata, h⟩
    rcases bind_eq_error h with hmap | ⟨places, -, hnone⟩
    · obtain ⟨cause, hcause, rfl⟩ := mapError_eq_error_iff.mp hmap
      obtain ⟨hbottomless, rfl⟩ := (hplaces hdata).mp hcause
      exact ⟨⟨data, hdata⟩, hbottomless, rfl⟩
    · cases hnone
  · rintro ⟨⟨data, hdata⟩, hbottomless, rfl⟩
    refine ⟨data, hdata, ?_⟩
    rw [(hplaces hdata).mpr ⟨hbottomless, rfl⟩]
    rfl

/-- Something in a text keeps it from being loaded: the document has a fault other than that it is
malformed, or else a collection is inside itself. -/
def HasInnerFaultIn (text : String) : Prop :=
  (∃ cause, Yaml.load text = .error cause ∧ cause ≠ .malformed) ∨
    (∃ v, Yaml.load text = .ok v ∧ ¬ IsNoRoot v) ∧ Yaml.IsBottomless text

theorem exists_ofText_fault_iff {origin : Origin} {text : String} :
    (∃ fault, Content.ofText origin text = .error fault ∧ fault.isAboutFile = false) ↔
      HasInnerFaultIn text := by
  unfold HasInnerFaultIn
  rw [← exists_dataOf_iff origin]
  simp only [ofText_eq_error_iff, dataOf_eq_error_iff]
  constructor
  · rintro ⟨_, (⟨cause, hload, rfl⟩ | ⟨v, -, -, rfl⟩) | ⟨hdata, hbottomless, rfl⟩, habout⟩
    · exact .inl ⟨cause, hload, of_decide_eq_false habout⟩
    · cases habout
    · exact .inr ⟨hdata, hbottomless⟩
  · rintro (⟨cause, hload, hcause⟩ | ⟨hdata, hbottomless⟩)
    · exact ⟨_, .inl (.inl ⟨cause, hload, rfl⟩), decide_eq_false hcause⟩
    · exact ⟨_, .inr ⟨hdata, hbottomless, rfl⟩, rfl⟩

/-! ## Files -/

/-- Bytes that are no text, or a text with something in it that keeps it from being loaded. -/
def HasInnerFault (bytes : List UInt8) : Prop :=
  ¬ Text.IsUtf8 bytes ∨ ∃ s, bytes = Text.encodeUtf8 s ∧
    HasInnerFaultIn (String.ofList (Text.unifyLineEnds s.toList))

theorem ofFile_eq_error_iff {path : Path} {file : FileContent} {fault : LoadFault} :
    Content.ofFile path file = .error fault ↔
      (∃ words, file = .error words ∧ .unreadable path words = fault) ∨
        ∃ bytes, file = .ok bytes ∧
          ((∃ cause, Text.readText bytes = .error cause ∧ .encoding cause = fault) ∨
            ∃ text, Text.readText bytes = .ok text ∧
              Content.ofText (.file path) text = .error fault) := by
  unfold Content.ofFile
  rw [bind_eq_error_iff, mapError_eq_error_iff]
  simp only [mapError_eq_ok_iff, Content.ofBytes, bind_eq_error_iff, mapError_eq_error_iff]

theorem exists_ofFile_fault_iff {path : Path} {file : FileContent} :
    (∃ fault, Content.ofFile path file = .error fault ∧ fault.isAboutFile = false) ↔
      ∃ bytes, file = .ok bytes ∧ HasInnerFault bytes := by
  unfold HasInnerFault
  simp only [← Text.exists_readText_error_iff, ofFile_eq_error_iff]
  constructor
  · rintro ⟨fault, ⟨words, -, rfl⟩ | ⟨bytes, rfl, ⟨cause, hread, -⟩ | ⟨text, hread, hfault⟩⟩, habout⟩
    · cases habout
    · exact ⟨bytes, rfl, .inl ⟨cause, hread⟩⟩
    · obtain ⟨s, hbytes, rfl⟩ := Text.readText_eq_ok_iff.mp hread
      exact ⟨bytes, rfl, .inr ⟨s, hbytes, exists_ofText_fault_iff.mp ⟨fault, hfault, habout⟩⟩⟩
  · rintro ⟨bytes, rfl, ⟨cause, hread⟩ | ⟨s, hbytes, hinner⟩⟩
    · exact ⟨_, .inr ⟨bytes, rfl, .inl ⟨cause, hread, rfl⟩⟩, rfl⟩
    · have hread := Text.readText_eq_ok_iff.mpr ⟨s, hbytes, rfl⟩
      obtain ⟨fault, hfault, habout⟩ := exists_ofText_fault_iff.mpr hinner
      exact ⟨fault, .inr ⟨bytes, rfl, .inr ⟨_, hread, hfault⟩⟩, habout⟩

variable {tree : FileTree} {l : Loader} {path : Path} {fault : LoadFault}

/-- A file whose content has been kept is loaded, whatever is in it now. -/
theorem load_eq_error_iff : (l.load tree path).result = .error fault ↔
    (tree.find? path = none ∧ .notFound path = fault) ∨
      (∃ entry, tree.find? path = some entry ∧ (∀ file, entry ≠ .file file) ∧
        .notAFile path = fault) ∨
      ∃ file, tree.find? path = some (.file file) ∧ l.kept? path = none ∧
        Content.ofFile path file = .error fault := by
  rw [Loader.load_result, fileAt]
  cases tree.find? path with
  | none => simp
  | some entry =>
      cases entry with
      | file file => cases l.kept? path <;> simp
      | directory => simp
      | other => simp

theorem exists_load_fault_iff :
    (∃ fault, (l.load tree path).result = .error fault ∧ fault.isAboutFile = false) ↔
      ∃ bytes, tree.find? path = some (.file (.ok bytes)) ∧ l.kept? path = none ∧
        HasInnerFault bytes := by
  simp only [load_eq_error_iff]
  constructor
  · rintro ⟨fault, ⟨-, rfl⟩ | ⟨-, -, -, rfl⟩ | ⟨file, hfile, hkept, hfault⟩, habout⟩
    · cases habout
    · cases habout
    · obtain ⟨bytes, rfl, hinner⟩ := exists_ofFile_fault_iff.mp ⟨fault, hfault, habout⟩
      exact ⟨bytes, hfile, hkept, hinner⟩
  · rintro ⟨bytes, hfile, hkept, hinner⟩
    obtain ⟨fault, hfault, habout⟩ := exists_ofFile_fault_iff.mpr ⟨bytes, rfl, hinner⟩
    exact ⟨fault, .inr (.inr ⟨_, hfile, hkept, hfault⟩), habout⟩

theorem report_of_load_error (around : Surroundings)
    (h : (l.load tree path).result = .error fault) :
    (checkFile around tree l path).report = ⟨path, [loadProblem around.wording fault], []⟩ := by
  simp only [checkFile, h]
  rfl

theorem kind_loadProblem (wording : Yaml.Wording) (fault : LoadFault) :
    (loadProblem wording fault).kind = some (if fault.isAboutFile then "load" else "internal") := by
  unfold loadProblem
  dsimp only
  split <;> rfl

/-- A load that fails gives its fault back, whether the places are asked for or not. -/
theorem answer_of_load_error {spelling : String}
    (h : (l.load tree (.ofString spelling)).result = .error fault) :
    ((Session.mk tree l).take (.load spelling)).answer = .data (.error fault) ∧
      ((Session.mk tree l).take (.loadWithSource spelling)).answer = .content (.error fault) := by
  simp only [Session.take, Session.loaded, h, Except.map, and_self]

/-- **Which files are not loaded for a fault that is not about the file as a whole.**  A file that
cannot be loaded gives its fault back from both kinds of loads, and is reported with one error, of
the kind for loading or of the kind for unforeseen causes.  The latter happens exactly if the file
has to be read and its bytes are no text, or hold a document with a fault other than that it is
malformed, or hold one in which a collection is inside itself.  A fault of the document is one of the
tokens, or one of a node: a scalar whose text does not live up to its tag, a day or moment that is a
mapping, or a default that leads back to its mapping. -/
theorem inner_faults_are_unforeseen (around : Surroundings) (tree : FileTree) (l : Loader)
    (path : Path) :
    (∀ fault, (l.load tree path).result = .error fault →
        (∀ spelling, .ofString spelling = path →
          ((Session.mk tree l).take (.load spelling)).answer = .data (.error fault) ∧
            ((Session.mk tree l).take (.loadWithSource spelling)).answer =
              .content (.error fault)) ∧
        (checkFile around tree l path).report = ⟨path, [loadProblem around.wording fault], []⟩ ∧
        (loadProblem around.wording fault).kind =
          some (if fault.isAboutFile then "load" else "internal")) ∧
      ((∃ fault, (l.load tree path).result = .error fault ∧ fault.isAboutFile = false) ↔
        ∃ bytes, tree.find? path = some (.file (.ok bytes)) ∧ l.kept? path = none ∧
          HasInnerFault bytes) ∧
      ∀ text cause, Yaml.load text = .error cause →
        cause.Lexical ∨ ∃ g, Yaml.Graph.ofText text = .ok (some g) ∧ cause.OfDocument g := by
  refine ⟨fun fault h => ⟨?_, report_of_load_error around h, kind_loadProblem _ fault⟩,
    exists_load_fault_iff, fun text cause => Yaml.fault_of_load⟩
  rintro spelling rfl
  exact answer_of_load_error h

/-- A directory with a spec whose last entry is a list that is its own item. -/
def coiledTree : FileTree :=
  ⟨[(["project.yml"], .file (.ok "name: Tools\nparts: &parts [*parts]\n".toUTF8.toList))], []⟩

example : (checkFile ⟨none, fun _ _ => false, id⟩ coiledTree (.fresh false)
    (.ofString "project.yml")).report.errors.map (fun e => (e.kind, e.message)) =
      [(some "internal", "Unexpected error during check: maximum recursion depth exceeded while " ++
        "calling a Python object")] := by decide +kernel

/-- A directory with a file that is one byte, which is no text. -/
def brokenTree : FileTree := ⟨[(["project.yml"], .file (.ok [0xFF]))], []⟩

/-- A spec with a day in a thirteenth month. -/
def lateText : String := "name: Tools\nsince: 2001-13-01\n"

/-- A directory with this spec and nothing else. -/
def lateTree : FileTree := ⟨[(["project.yml"], .file (.ok lateText.toUTF8.toList))], []⟩

/-- **A file that cannot be loaded need not be reported as such.** -/
theorem broken_byte_is_unforeseen :
    ((Loader.fresh false).load brokenTree (.ofString "project.yml")).result.isOk = false ∧
      (checkFile ⟨none, fun _ _ => false, id⟩ brokenTree (.fresh false)
          (.ofString "project.yml")).report.errors.map Problem.kind = [some "internal"] ∧
      ((Loader.fresh false).load lateTree (.ofString "project.yml")).result.isOk = false ∧
      (checkFile ⟨none, fun _ _ => false, id⟩ lateTree (.fresh false)
          (.ofString "project.yml")).report.errors.map Problem.kind = [some "internal"] := by
  refine ⟨by decide +kernel, by decide +kernel, by decide +kernel, by decide +kernel⟩

end BuildSpec.SpecFile
