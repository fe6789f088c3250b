/-!
# Tables

A table is a list of entries in the order in which their keys were first mentioned.  What counts as
the same key is up to the table.
-/

namespace BuildSpec.Table

variable {κ α : Type}

/-- Writes an entry: under a key that is there already the content is replaced and the key stays as
it was first written; a new key comes last. -/
def put (same : κ → κ → Bool) : List (κ × α) → κ → α → List (κ × α)
  | [], key, content => [(key, content)]
  | (k, c) :: rest, key, content =>
    if same k key then (k, content) :: rest else (k, c) :: put same rest key content

/-- The table that results from writing entries one after another. -/
def ofEntries (same : κ → κ → Bool) (entries : List (κ × α)) : List (κ × α) :=
  entries.foldl (fun t e => put same t e.1 e.2) []

end BuildSpec.Table
