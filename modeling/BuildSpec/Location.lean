import BuildSpec.Path
import BuildSpec.SourceMap

/-!
# Locations in messages

A message may end with the place that it is about, in parentheses: the file with line and column
as far as they are known, and the pointer of the element.  A source root in the environment
shortens the paths of the files below it.
-/

namespace BuildSpec

/-- A place in a file, and the element that it is about. -/
structure Location where
  file : Option Path
  pointer : Option String
  place : Place

namespace Location

/-- The path of a file as it is shown. -/
def shownPath (sourceRoot : Option String) (file : Path) : String :=
  match sourceRoot with
  | none | some "" => file.text
  | some root => (file.relativeTo (.ofString root)).text

/-- The file of a location, with the line and the column if they are known. -/
def filePart (sourceRoot : Option String) (place : Place) (file : Path) : String :=
  let position := match place.line, place.column with
    | some line, some column => ":" ++ toString line ++ ":" ++ toString column
    | some line, none => ":" ++ toString line
    | none, _ => ""
  "source= " ++ shownPath sourceRoot file ++ position ++ " "

/-- The end of a message that tells a location; empty if nothing is known. -/
def text (sourceRoot : Option String) (l : Location) : String :=
  let file := (l.file.map (filePart sourceRoot l.place)).toList
  let pointer := (l.pointer.filter (· ≠ "")).toList.map ("yaml_path=" ++ ·)
  match file ++ pointer with
  | [] => ""
  | parts => " (" ++ " ".intercalate parts ++ ")"

end Location

end BuildSpec
