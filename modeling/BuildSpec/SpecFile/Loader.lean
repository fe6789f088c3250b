import BuildSpec.Log
import BuildSpec.SpecFile.Content
import BuildSpec.Table

/-!
# Loading spec files

A loader may keep what it has read: the data of a file in one table, the places of its elements in
another.  A file that it has kept is not read again, as long as there is a file at the path; whether
there is one is always asked first.  What cannot be loaded is not kept.
Main statements:

* `load_of_error` — a load that fails leaves the loader as it was;
* `load_of_forgetful` — a loader that keeps nothing reads the file each time.
-/

namespace BuildSpec.SpecFile

/-- A loader: whether it keeps what it reads, and the data and the places that it has kept. -/
structure Loader where
  keeps : Bool
  kept : List (Path × Entries)
  keptPlaces : List (Path × SourceMap)
  deriving Inhabited

/-- What a load comes to: the loader after it, the content or a fault, and the records of the
log. -/
structure Load where
  loader : Loader
  result : Except LoadFault Content
  log : List Log.Record

namespace Loader

/-- A loader that has read nothing. -/
def fresh (keeps : Bool) : Loader := ⟨keeps, [], []⟩

/-- The content that has been kept for a path; both the data and the places must be there. -/
def kept? (l : Loader) (path : Path) : Option Content :=
  if l.keeps then
    match l.kept.lookup path, l.keptPlaces.lookup path with
    | some data, some places => some ⟨data, places⟩
    | _, _ => none
  else none

/-- The loader after reading a file. -/
def keep (l : Loader) (path : Path) (content : Content) : Loader :=
  if l.keeps then
    { l with
      kept := Table.put (· == ·) l.kept path content.data
      keptPlaces := Table.put (· == ·) l.keptPlaces path content.places }
  else l

/-- A record of the loader. -/
def record (message : String) : Log.Record :=
  ⟨"project_spec_designer.models.parsing.yaml_parser", Log.debug, message⟩

/-- Reads a file that has not been kept. -/
def read (l : Loader) (path : Path) (file : FileContent) : Load :=
  let log := [record ("Loading spec file (with source): " ++ path.text)]
  match Content.ofFile path file with
  | .ok content => ⟨l.keep path content, .ok content, log⟩
  | .error fault => ⟨l, .error fault, log⟩

/-- Loads the file at a path. -/
def load (l : Loader) (tree : FileTree) (path : Path) : Load :=
  match fileAt tree path with
  | .error fault => ⟨l, .error fault, []⟩
  | .ok file =>
    match l.kept? path with
    | some content =>
      ⟨l, .ok content, [record ("Loading spec (with source) from cache: " ++ path.text)]⟩
    | none => l.read path file

/-- Forgets everything that has been kept. -/
def clear (l : Loader) : Loader := { l with kept := [], keptPlaces := [] }

/-- What forgetting writes to the log. -/
def clearLog : List Log.Record := [record "Spec cache cleared"]

theorem keep_of_forgetful {l : Loader} (h : l.keeps = false) (path : Path) (content : Content) :
    l.keep path content = l := by
  simp [keep, h]

theorem kept?_of_forgetful {l : Loader} (h : l.keeps = false) (path : Path) :
    l.kept? path = none := by
  simp [kept?, h]

/-- A load that fails leaves the loader as it was. -/
theorem load_of_error {l : Loader} {tree : FileTree} {path : Path} {fault : LoadFault}
    (h : (l.load tree path).result = .error fault) : (l.load tree path).loader = l := by
  unfold load at h ⊢
  split
  · rfl
  · next file found =>
    cases hk : l.kept? path with
    | some content => rfl
    | none =>
      cases hc : Content.ofFile path file with
      | ok content => simp [found, hk, read, hc] at h
      | error cause => simp [read, hc]

/-- A loader that keeps nothing reads the file each time, and stays as it is. -/
theorem load_of_forgetful {l : Loader} (h : l.keeps = false) (tree : FileTree) (path : Path) :
    (l.load tree path).loader = l ∧
      (l.load tree path).result = (fileAt tree path).bind (Content.ofFile path) := by
  unfold load
  cases fileAt tree path with
  | error fault => simp [Except.bind]
  | ok file =>
    simp only [kept?_of_forgetful h, read, keep_of_forgetful h, Except.bind]
    cases Content.ofFile path file <;> simp

end Loader

end BuildSpec.SpecFile
