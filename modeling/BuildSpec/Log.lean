import BuildSpec.Text.Case

/-!
# The log

Every record has a level, and a run is told by name which levels to keep.  Kept records go to one
of two streams: those below the print level to the standard output, the others to the standard
error.  Names of levels are read without regard to case, and a name that is none stands for a
warning.
-/

namespace BuildSpec.Log

/-- A record of the log. -/
structure Record where
  logger : String
  level : Int
  message : String
  deriving DecidableEq, Repr, Inhabited

/-- The level of a record that is of use only when something goes wrong. -/
def debug : Int := 10

/-- The level of a record that tells of ordinary work. -/
def info : Int := 20

/-- The level of a record that tells of something suspicious. -/
def warning : Int := 30

/-- The names of levels; the first name of a level is the one that is written. -/
def levelNames : List (String × Int) :=
  [("NOTSET", 0), ("DEBUG", 10), ("INFO", 20), ("WARNING", 30), ("WARN", 30), ("ERROR", 40),
   ("CRITICAL", 50), ("FATAL", 50)]

/-- The name of a level, as it is written. -/
def levelName (level : Int) : String :=
  match levelNames.find? fun (_, n) => n = level with
  | some (name, _) => name
  | none => "Level " ++ toString level

/-- What a word for a level stands for.  Two words are taken by the log itself: they are not
levels, and using one is a fault. -/
inductive LevelWord where
  | level (n : Int)
  | layout
  | layouts
  deriving DecidableEq, Repr

/-- Reads a word for a level. -/
def LevelWord.ofString (word : String) : LevelWord :=
  let word := Text.upperAscii word
  if word = "BASIC_FORMAT" then .layout
  else if word = "_STYLES" then .layouts
  else .level ((levelNames.lookup word).getD warning)

/-- A word for a level that is taken by the log itself. -/
inductive Fault where
  | layoutAsLevel
  | layoutsAsLevel
  | layoutAsThreshold
  | layoutsAsThreshold
  deriving DecidableEq, Repr

/-- The words for a fault. -/
def Fault.message : Fault → String
  | .layoutAsLevel => "Unknown level: '%(levelname)s:%(name)s:%(message)s'"
  | .layoutsAsLevel =>
    "Level not an integer or a valid string: \x7b'%': (<class 'logging.PercentStyle'>, "
      ++ "'%(levelname)s:%(name)s:%(message)s'), '\x7b': (<class 'logging.StrFormatStyle'>, "
      ++ "'\x7blevelname\x7d:\x7bname\x7d:\x7bmessage\x7d'), "
      ++ "'$': (<class 'logging.StringTemplateStyle'>, "
      ++ "'$\x7blevelname\x7d:$\x7bname\x7d:$\x7bmessage\x7d')\x7d"
  | .layoutAsThreshold => "'>' not supported between instances of 'int' and 'str'"
  | .layoutsAsThreshold => "'>' not supported between instances of 'int' and 'dict'"

/-- The streams that a record can go to. -/
inductive Stream where
  | output
  | error
  deriving DecidableEq, Repr

/-- The levels that decide where a record goes: records below `root` are dropped, and of the others
those from `threshold` on go to the standard error. -/
structure Routing where
  root : Int
  threshold : Int
  deriving DecidableEq, Repr

namespace Routing

/-- The least level that the standard output takes. -/
def floor : Int := debug

/-- The routing for a log level and a print level, which is raised to the least level of all. -/
def ofLevels (level print : Int) : Routing := ⟨level, max print floor⟩

/-- Whether the log keeps records of a level at all; none at level zero or below is kept. -/
def keeps (r : Routing) (level : Int) : Bool := r.root ≤ level && 0 < level

/-- Whether a stream takes records of a level. -/
def takes (r : Routing) (s : Stream) (level : Int) : Bool :=
  match s with
  | .output => floor ≤ level && level ≤ r.threshold - 1
  | .error => r.threshold ≤ level

/-- A record as it is written. -/
def line (record : Record) : String :=
  let logger := if record.logger = "" then "root" else record.logger
  logger ++ " - " ++ levelName record.level ++ " - " ++ record.message ++ "\n"

/-- What a stream holds after some records. -/
def written (r : Routing) (s : Stream) (records : List Record) : String :=
  String.join ((records.filter fun x => r.keeps x.level && r.takes s x.level).map line)

end Routing

end BuildSpec.Log
