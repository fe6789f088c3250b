import BuildSpec.CommandLine.Run

/-!
# The command

The outer layer of the checker: it takes a picture of the files that the command line is about, lets
a run decide what to write, and writes it.  A run is made twice: the first one only tells which paths
the specs refer to, so that the second one can be given the answers.  Of a malformed text the command
says only that it is one.
-/

namespace BuildSpec.Command

open CommandLine

/-- What stands at a path of the disk, if anything. -/
def metadataOf (path : Path) : IO (Option IO.FS.Metadata) := do
  let place := (← IO.currentDir) / path.text
  try return some (← place.metadata) catch _ => return none

/-- What reading the file at a path of the disk comes to; only spec files are read. -/
def contentOf (path : Path) : IO FileContent := do
  if path.suffix ∉ SpecFile.suffixes then return .ok []
  let place := (← IO.currentDir) / path.text
  try return .ok (← IO.FS.readBinFile place).toList catch cause => return .error (toString cause)

/-- Adds what stands at a path to a picture.  Of a directory, what is below it is added as far as it
can lead to spec files. -/
partial def addFrom (tree : FileTree) (path : Path) : IO FileTree := do
  let place := (← IO.currentDir) / path.text
  match ← metadataOf path with
  | none => return tree
  | some m =>
    match m.type with
    | .file => return tree.put path (.file (← contentOf path))
    | .dir =>
      let mut tree := tree.put path .directory
      for entry in ← place.readDir do
        let below := { path with names := path.names ++ [entry.fileName] }
        let isDirectory := ((← metadataOf below).map (·.type == .dir)).getD false
        if isDirectory || entry.fileName ∈ SpecFile.names then
          tree ← addFrom tree below
      return tree
    | _ => return tree.put path .other

/-- Adds the directories that a path leads through to a picture, and what it leads to. -/
def addPath (tree : FileTree) (path : Path) : IO FileTree := do
  let mut tree := tree
  for n in List.range path.names.length do
    let step := { path with names := path.names.take n }
    if ((← metadataOf step).map (·.type == .dir)).getD false then
      tree := tree.put step .directory
  addFrom tree path

/-- The environment of the run. -/
def environment : IO Environment :=
  return { logLevel := ← IO.getEnv "PROJECT_SPEC_DESIGNER_LOG_LEVEL"
           printLevel := ← IO.getEnv "PROJECT_SPEC_DESIGNER_PRINT_LEVEL"
           cacheEnabled := ← IO.getEnv "PROJECT_SPEC_DESIGNER_CACHE_ENABLED"
           sourceRoot := ← IO.getEnv "PROJECT_SPEC_DESIGNER_SOURCE_ROOT" }

/-- The world that a command line is run in. -/
def world (arguments : List String) : IO World := do
  let current := (Path.ofString (← IO.currentDir).toString).names
  let start : World :=
    ⟨← environment, ⟨[], current⟩, fun _ _ => true, fun _ => "the text is no document"⟩
  match read arguments with
  | .ok (.request r) =>
    let tree ← r.roots.foldlM addPath start.tree
    let seen : World := { start with tree }
    let calls := (seen.checks false r.roots).flatMap SpecFile.Check.calls
    let existing ← calls.filterM fun (base, relative) =>
      return (← metadataOf (base.join (.ofString relative))).isSome
    return { seen with pathExists := fun base relative => (base, relative) ∈ existing }
  | _ => return start

end BuildSpec.Command

/-- Runs the checker. -/
def main (arguments : List String) : IO UInt32 := do
  match (← BuildSpec.Command.world arguments).run arguments with
  | .ok outcome =>
    IO.print outcome.output
    IO.eprint outcome.errors
    return outcome.exitCode.toUInt32
  | .error fault =>
    IO.eprintln fault.message
    return 1
