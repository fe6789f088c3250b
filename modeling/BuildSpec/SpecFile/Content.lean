import BuildSpec.FileTree
import BuildSpec.Yaml

/-!
# What a spec file holds

A spec file is a document whose root is a mapping; an empty document counts as an empty mapping.
Together with the data comes a map of the places at which its elements start, made from the same
text.
-/

namespace BuildSpec.SpecFile

/-- Where a document comes from. -/
inductive Origin where
  | text
  | file (path : Path)
  deriving DecidableEq, Repr

/-- The words for where a document comes from. -/
def Origin.description : Origin → String
  | text => "content"
  | file path => "file " ++ path.text

/-- Why a spec file cannot be loaded. -/
inductive LoadFault where
  | notFound (path : Path)
  | notAFile (path : Path)
  /-- The file cannot be opened. -/
  | unreadable (path : Path) (words : String)
  /-- The bytes of the file are no text. -/
  | encoding (cause : Text.Utf8Fault)
  /-- The document in a text cannot be read. -/
  | document (origin : Origin) (text : String) (cause : Yaml.Fault)
  | notAMapping (origin : Origin) (kind : String)
  deriving DecidableEq, Repr

namespace LoadFault

/-- The words for a fault; `wording` tells what is wrong with a malformed text. -/
def message (wording : Yaml.Wording) : LoadFault → String
  | notFound path => "Spec file not found: " ++ path.text
  | notAFile path => "Path is not a file: " ++ path.text
  | unreadable path words =>
    "Failed to read spec file " ++ path.text ++ ": " ++ words ++ ": " ++ Text.quoted path.text
  | encoding cause => cause.message
  | document origin text cause =>
    let words := cause.message (wording text)
    if cause = .malformed then "Failed to parse YAML " ++ origin.description ++ ": " ++ words
    else words
  | notAMapping origin kind =>
    "Spec root must be a mapping in " ++ origin.description ++ ", got " ++ kind

/-- Whether a fault is about the file as a whole.  The others are about some bytes or some node in
it, and nothing tells which file they are in. -/
def isAboutFile : LoadFault → Bool
  | notFound _ | notAFile _ | unreadable .. | notAMapping .. => true
  | encoding _ => false
  | document _ _ cause => cause = .malformed

end LoadFault

/-- The data of a document, and the places of its elements. -/
structure Content where
  data : Entries
  places : SourceMap
  deriving Inhabited

/-- The data in the text of a document. -/
def dataOf (origin : Origin) (text : String) : Except LoadFault Entries := do
  match ← (Yaml.load text).mapError (.document origin text) with
  | .null => return []
  | .map entries => return entries
  | v => throw (.notAMapping origin v.kindName)

namespace Content

/-- Reads the text of a document. -/
def ofText (origin : Origin) (text : String) : Except LoadFault Content := do
  let data ← dataOf origin text
  let places ← (Yaml.sourceMap text).mapError (.document origin text)
  return ⟨data, places⟩

/-- Reads the bytes of a file. -/
def ofBytes (path : Path) (bytes : List UInt8) : Except LoadFault Content := do
  let text ← (Text.readText bytes).mapError .encoding
  ofText (.file path) text

/-- Reads a file. -/
def ofFile (path : Path) (content : FileContent) : Except LoadFault Content := do
  let bytes ← content.mapError (.unreadable path)
  ofBytes path bytes

end Content

/-- The file at a path. -/
def fileAt (tree : FileTree) (path : Path) : Except LoadFault FileContent :=
  match tree.find? path with
  | none => .error (.notFound path)
  | some (.file content) => .ok content
  | some _ => .error (.notAFile path)

end BuildSpec.SpecFile
