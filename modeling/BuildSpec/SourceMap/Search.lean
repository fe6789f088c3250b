import BuildSpec.Location

/-!
# The search for the nearest element

The nearest element with a place is searched for in rounds.  Each round looks a text up in the map
and goes on with a shorter one: what is left when the last part is dropped.  A text in which nothing
is left to be dropped, though it is not empty, is looked up again and again.  So a search may need
more rounds than any number.
-/

namespace BuildSpec.SourceMap

/-- What a search from a text on comes to in so many rounds; nothing, if it needs more of them. -/
def search (m : SourceMap) : Nat → String → Option Place
  | 0, _ => none
  | rounds + 1, pointer =>
    match m.find? pointer with
    | some place => some place
    | none => if pointer = "" then some .unknown else search m rounds (Pointer.dropLast pointer)

/-- The location of a pointer, found in so many rounds.  In a map without places none is searched
for. -/
def locate (m : SourceMap) (rounds : Nat) (pointer : String) : Option Location :=
  if m.isEmpty then some ⟨none, some pointer, .unknown⟩
  else (m.search rounds pointer).map (⟨none, some pointer, ·⟩)

end BuildSpec.SourceMap
