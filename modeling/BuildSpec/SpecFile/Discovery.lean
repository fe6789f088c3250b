import BuildSpec.FileTree

/-!
# Finding spec files

A run is given files and directories.  A file must have the ending of a spec file; below a
directory everything with the name of a spec file counts.  What is found is put in order, each path
once.  A path that is of no use is remarked on.
-/

namespace BuildSpec.SpecFile

/-- The names that a spec file has if it is looked for in directories. -/
def names : List String := ["project.yml", "project.yaml"]

/-- The endings that a spec file has if it is given itself. -/
def suffixes : List String := [".yml", ".yaml"]

/-- A path that is of no use. -/
inductive Useless where
  | missing (path : Path)
  | otherFile (path : Path)
  | neither (path : Path)
  deriving DecidableEq, Repr

/-- The remark on a path that is of no use. -/
def Useless.message : Useless → String
  | missing path => "Warning: Path does not exist: " ++ path.text
  | otherFile path => "Warning: File is not a YAML spec: " ++ path.text
  | neither path => "Warning: Path is neither file nor directory: " ++ path.text

/-- The paths below a directory that end with the name of a spec file. -/
def namedBelow (tree : FileTree) (path : Path) : List Path :=
  match tree.resolve? path with
  | none => []
  | some place =>
    (SpecFile.names.flatMap (tree.below place)).map fun rest =>
      { path with names := path.names ++ rest }

/-- What a path contributes. -/
def candidates (tree : FileTree) (path : Path) : Except Useless (List Path) :=
  match tree.find? path with
  | none => .error (.missing path)
  | some (.file _) => if path.suffix ∈ suffixes then .ok [path] else .error (.otherFile path)
  | some .directory => .ok (namedBelow tree path)
  | some .other => .error (.neither path)

/-- The spec files that some paths lead to, in order. -/
def find (tree : FileTree) (paths : List Path) : List Path :=
  let all := paths.flatMap fun p => (candidates tree p).toOption.getD []
  all.eraseDups.mergeSort fun p q => !q.before p

/-- The remarks on the paths that are of no use. -/
def remarks (tree : FileTree) (paths : List Path) : List String :=
  paths.filterMap fun p => match candidates tree p with
    | .error useless => some useless.message
    | .ok _ => none

end BuildSpec.SpecFile
