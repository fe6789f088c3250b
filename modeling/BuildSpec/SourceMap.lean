import BuildSpec.Pointer

/-!
# Source maps

A source map records where in a file each element of a document starts.  A pointer may lead to an
element that the file only implies; then the nearest element around it is the one to look at.
-/

namespace BuildSpec

/-- A place in a file, counted from one; either part may be unknown. -/
structure Place where
  line : Option Nat
  column : Option Nat
  deriving DecidableEq, Repr, Inhabited

/-- The place of an element that has none. -/
def Place.unknown : Place := ⟨none, none⟩

/-- Whether anything is known about a place. -/
def Place.isKnown (p : Place) : Bool := p.line.isSome || p.column.isSome

/-- The places of elements, by their pointers; each pointer occurs once. -/
abbrev SourceMap := List (String × Place)

namespace SourceMap

/-- Records a place; a pointer that is there already gets the new place. -/
def record : SourceMap → String → Place → SourceMap
  | [], pointer, place => [(pointer, place)]
  | (p, old) :: rest, pointer, place =>
    if p = pointer then (p, place) :: rest else (p, old) :: record rest pointer place

/-- The source map of places recorded one after another. -/
def ofList (places : List (String × Place)) : SourceMap :=
  places.foldl (fun m (pointer, place) => m.record pointer place) []

/-- The place recorded for a pointer, if anything is known about it. -/
def find? (m : SourceMap) (pointer : String) : Option Place :=
  (m.lookup pointer).filter Place.isKnown

/-- The place of the element that a pointer leads to, or of the nearest element around it that has
one. -/
def nearest (m : SourceMap) (pointer : String) : Place :=
  ((Pointer.enclosing pointer).findSome? m.find?).getD .unknown

/-- The place for a pointer, where the map or the pointer may be missing. -/
def nearest? (m : Option SourceMap) (pointer : Option String) : Place :=
  match m, pointer with
  | some m, some pointer => m.nearest pointer
  | _, _ => .unknown

end SourceMap

end BuildSpec
