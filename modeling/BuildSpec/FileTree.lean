import BuildSpec.Path
import BuildSpec.Text.Utf8

/-!
# File trees

The part of a file system that matters: files with their content, directories, and entries that are
neither, each under the names that lead to it from the root.  A file may refuse to be read.  Two
points lead from a directory to the one that holds it.
-/

namespace BuildSpec

/-- What reading a file comes to: its bytes, or the words for why it cannot be opened. -/
abbrev FileContent := Except String (List UInt8)

/-- What a path leads to. -/
inductive FileEntry where
  | file (content : FileContent)
  | directory
  | other
  deriving Repr, Inhabited

/-- A file system and the working directory.  The root is always there. -/
structure FileTree where
  entries : List (List String × FileEntry)
  current : List String

namespace FileTree

/-- What stands under a row of names. -/
def entry? (t : FileTree) (names : List String) : Option FileEntry :=
  if names.isEmpty then some .directory else t.entries.lookup names

/-- Whether a directory stands under a row of names. -/
def isDirectoryAt (t : FileTree) (names : List String) : Bool :=
  match t.entry? names with
  | some .directory => true
  | _ => false

/-- The names that a path leads to, step by step from a place; each step starts in a directory. -/
def walk (t : FileTree) (place : List String) : List String → Option (List String)
  | [] => some place
  | name :: rest =>
    if t.isDirectoryAt place then
      let next := if name = ".." then place.dropLast else place ++ [name]
      if (t.entry? next).isSome then t.walk next rest else none
    else none

/-- The names that a path leads to, if there is anything. -/
def resolve? (t : FileTree) (p : Path) : Option (List String) :=
  t.walk (if p.isAbsolute then [] else t.current) p.names

/-- What a path leads to. -/
def find? (t : FileTree) (p : Path) : Option FileEntry := (t.resolve? p).bind t.entry?

/-- Whether a path leads to anything. -/
def contains (t : FileTree) (p : Path) : Bool := (t.find? p).isSome

/-- What reading a file comes to. -/
def read? (t : FileTree) (p : Path) : Option FileContent :=
  match t.find? p with
  | some (.file content) => some content
  | _ => none

/-- Puts an entry under a row of names, with the directories that lead there. -/
def putAt (t : FileTree) (names : List String) (e : FileEntry) : FileTree :=
  let above := (List.range names.length).map names.take
  let missing := above.filter fun d => (t.entry? d).isNone
  let kept := t.entries.filter fun (n, _) => n ≠ names
  { t with entries := kept ++ missing.map (·, .directory) ++ [(names, e)] }

/-- The names that a path would lead to, two points taken as one step back. -/
def target (t : FileTree) (p : Path) : List String :=
  p.names.foldl (fun place name => if name = ".." then place.dropLast else place ++ [name])
    (if p.isAbsolute then [] else t.current)

/-- Puts an entry at a path. -/
def put (t : FileTree) (p : Path) (e : FileEntry) : FileTree := t.putAt (t.target p) e

/-- Removes what a path leads to, and what is below it. -/
def remove (t : FileTree) (p : Path) : FileTree :=
  match t.resolve? p with
  | none => t
  | some names => { t with entries := t.entries.filter fun (n, _) => !names.isPrefixOf n }

/-- The rows of names below a directory that end with a name, as seen from the directory. -/
def below (t : FileTree) (names : List String) (name : String) : List (List String) :=
  t.entries.filterMap fun (n, _) =>
    let rest := n.drop names.length
    if names.isPrefixOf n ∧ rest.getLast? = some name then some rest else none

end FileTree

end BuildSpec
