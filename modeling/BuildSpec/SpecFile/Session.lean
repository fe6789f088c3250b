import BuildSpec.SpecFile.Loader

/-!
# Sessions with a loader

One loader serves many loads, and the files change between them.  A session takes one step after
another: a file is written or removed, a file is loaded with or without the places of its elements,
or the loader forgets what it has kept.  Different spellings of a path count as the same path.
-/

namespace BuildSpec.SpecFile

/-- A step of a session. -/
inductive Step where
  | write (path : Path) (entry : FileEntry)
  | remove (path : Path)
  | load (spelling : String)
  | loadWithSource (spelling : String)
  | clear

/-- What a step gives back. -/
inductive Answer where
  | done
  | data (result : Except LoadFault Entries)
  | content (result : Except LoadFault Content)

/-- The files, and the loader. -/
structure Session where
  tree : FileTree
  loader : Loader

/-- What a step comes to. -/
structure Turn where
  session : Session
  answer : Answer
  log : List Log.Record

namespace Session

/-- A session with a loader that has read nothing. -/
def start (tree : FileTree) (keeps : Bool) : Session := ⟨tree, .fresh keeps⟩

/-- The load of a file in a session. -/
def loaded (s : Session) (spelling : String) : Load := s.loader.load s.tree (.ofString spelling)

/-- Takes a step. -/
def take (s : Session) : Step → Turn
  | .write path entry => ⟨{ s with tree := s.tree.put path entry }, .done, []⟩
  | .remove path => ⟨{ s with tree := s.tree.remove path }, .done, []⟩
  | .load spelling =>
    let load := s.loaded spelling
    ⟨{ s with loader := load.loader }, .data (load.result.map Content.data), load.log⟩
  | .loadWithSource spelling =>
    let load := s.loaded spelling
    ⟨{ s with loader := load.loader }, .content load.result, load.log⟩
  | .clear => ⟨{ s with loader := s.loader.clear }, .done, Loader.clearLog⟩

/-- The session after some steps. -/
def run (s : Session) (steps : List Step) : Session :=
  steps.foldl (fun s step => (s.take step).session) s

end Session

end BuildSpec.SpecFile
