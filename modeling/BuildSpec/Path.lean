import BuildSpec.Text.Search

/-!
# Paths

A path is a row of names, relative to the working directory or to the root.  Empty names and points
are left out when a path is read, so different spellings of a path are equal; two points are kept,
since they depend on what is on the disk.  Paths are ordered name by name.
-/

namespace BuildSpec

/-- A path.  It starts with no slash, one, or two; a path with two slashes in front is not the same
as one with one, and more than two count as one. -/
structure Path where
  slashes : Nat
  names : List String
  deriving DecidableEq, Repr, Inhabited

namespace Path

/-- Reads a path. -/
def ofString (s : String) : Path :=
  let leading := (s.toList.takeWhile (· = '/')).length
  let names := (Text.parts '/' s).filter fun name => name ≠ "" ∧ name ≠ "."
  ⟨if leading ≤ 2 then leading else 1, names⟩

/-- The working directory. -/
def here : Path := ⟨0, []⟩

/-- A path that starts at the root. -/
def isAbsolute (p : Path) : Bool := p.slashes ≠ 0

/-- The path as text; the working directory is a point. -/
def text (p : Path) : String :=
  if p.slashes = 0 ∧ p.names = [] then "."
  else String.ofList (List.replicate p.slashes '/') ++ "/".intercalate p.names

instance : ToString Path := ⟨text⟩

/-- The names of a path, with the slashes in front as the first one. -/
def components (p : Path) : List String :=
  if p.isAbsolute then String.ofList (List.replicate p.slashes '/') :: p.names else p.names

/-- A path relative to another one; an absolute path stays as it is. -/
def join (base p : Path) : Path :=
  if p.isAbsolute then p else ⟨base.slashes, base.names ++ p.names⟩

/-- The path without its last name. -/
def parent (p : Path) : Path := ⟨p.slashes, p.names.dropLast⟩

/-- The last name, empty if there is none. -/
def name (p : Path) : String := p.names.getLast?.getD ""

/-- The last point of a name and what follows it, unless the name starts or ends with it. -/
def suffix (p : Path) : String :=
  let reversed := p.name.toList.reverse
  let ending := reversed.takeWhile (· ≠ '.')
  match reversed.dropWhile (· ≠ '.') with
  | '.' :: stem =>
    if stem.isEmpty || ending.isEmpty then "" else String.ofList ('.' :: ending.reverse)
  | _ => ""

/-- The order of paths, name by name. -/
def before (p q : Path) : Bool := p.components < q.components

/-- A path below a directory as seen from there; any other path stays as it is. -/
def relativeTo (p root : Path) : Path :=
  if root.slashes = 0 && root.names.isEmpty then p
  else if p.slashes = root.slashes && root.names.isPrefixOf p.names then
    ⟨0, p.names.drop root.names.length⟩
  else p

end Path

end BuildSpec
