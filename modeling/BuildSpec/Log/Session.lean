import BuildSpec.RunSettings

/-!
# Setting up the log

A record is given to a logger.  The loggers form a tree, and on the way from the logger to the root
two things are looked for: the first level that is set, which the record must reach, and the
handlers, each of which takes the record or leaves it.  The loggers of this tool set no levels and
have no handlers, so that all is decided at the root.  Setting up the log takes the handlers of the
root away and gives it two new ones, one for each stream.

In a session the log is set up again and again, by settings of several kinds that change meanwhile,
and records are written in between.
-/

namespace BuildSpec.Log

/-- How a handler writes a record: with the names of its logger and its level, or alone. -/
inductive Layout where
  | named
  | bare
  deriving DecidableEq, Repr

/-- A record as it is written. -/
def Layout.line : Layout → Record → String
  | named, record => Routing.line record
  | bare, record => record.message ++ "\n"

/-- A handler writes records to a stream: those from a level on, and not beyond another one, if that
is set. -/
structure Handler where
  stream : Stream
  least : Int
  greatest : Option Int
  layout : Layout
  deriving DecidableEq, Repr

/-- Whether a handler takes records of a level. -/
def Handler.takes (h : Handler) (level : Int) : Bool :=
  h.least ≤ level && h.greatest.all (level ≤ ·)

/-- The handler for a stream of a log that is split at a level. -/
def Handler.ofStream (threshold : Int) : Stream → Handler
  | .output => ⟨.output, Routing.floor, some (threshold - 1), .named⟩
  | .error => ⟨.error, threshold, none, .named⟩

/-- The handler for records that come to no other one. -/
def Handler.lastResort : Handler := ⟨.error, warning, none, .bare⟩

/-- A logger; it has no level of its own if that is zero. -/
structure Logger where
  level : Int
  handlers : List Handler
  deriving DecidableEq, Repr

namespace Logger

/-- A logger that sets nothing. -/
def plain : Logger := ⟨0, []⟩

/-- The way to the root from a logger that is so many steps below it, with loggers that set nothing
in between. -/
def way (root : Logger) (depth : Nat) : List Logger := .replicate depth plain ++ [root]

/-- The level that records must reach: the first one that is set on a way. -/
def leastOn : List Logger → Int
  | [] => 0
  | l :: rest => if l.level = 0 then leastOn rest else l.level

/-- The handlers that a record comes to on a way. -/
def handlersOn (loggers : List Logger) : List Handler :=
  let handlers := loggers.flatMap handlers
  if handlers.isEmpty then [.lastResort] else handlers

/-- The handlers that write a record of a level; none does at level zero or below. -/
def writers (loggers : List Logger) (level : Int) : List Handler :=
  if leastOn loggers ≤ level && 0 < level then (handlersOn loggers).filter (·.takes level) else []

/-- The handlers of a log that is split at a level. -/
def split (threshold : Int) : List Handler :=
  [.ofStream threshold .output, .ofStream threshold .error]

/-- Sets up the root of the log for words for two levels.  A word that is no level is a fault; if it
is the one for the log level, the old handlers are gone by then. -/
def setUp (root : Logger) (log print : LevelWord) : Logger × Option Fault :=
  match print with
  | .layout => (root, some .layoutAsThreshold)
  | .layouts => (root, some .layoutsAsThreshold)
  | .level print =>
    match log with
    | .layout => ({ root with handlers := [] }, some .layoutAsLevel)
    | .layouts => ({ root with handlers := [] }, some .layoutsAsLevel)
    | .level level => (⟨level, split (max print Routing.floor)⟩, none)

end Logger

/-- What happens in a session. -/
inductive Act where
  /-- Settings with a number are made or changed. -/
  | assign (i : Nat) (settings : RunSettings)
  /-- The log is set up by settings with a number, which may be given another log level. -/
  | setUp (i : Nat) (logLevel : Option String)
  /-- A record is given to a logger so many steps below the root. -/
  | note (depth : Nat) (record : Record)

/-- All settings by their numbers, the root of the log, and what the streams hold. -/
structure Session where
  settings : Nat → RunSettings
  root : Logger
  written : Stream → String

namespace Session

/-- The session at its start, when the log has not been set up yet. -/
def start : Session := ⟨fun _ => .standard, ⟨warning, []⟩, fun _ => ""⟩

/-- The session with other settings under a number. -/
def assign (s : Session) (i : Nat) (settings : RunSettings) : Session :=
  { s with settings := fun j => if j = i then settings else s.settings j }

/-- What is added to a stream for a record. -/
def added (s : Session) (depth : Nat) (record : Record) (stream : Stream) : String :=
  let writers := Logger.writers (s.root.way depth) record.level
  String.join ((writers.filter (·.stream = stream)).map (·.layout.line record))

/-- The session after something has happened. -/
def take (s : Session) : Act → Session
  | .assign i settings => s.assign i settings
  | .setUp i logLevel =>
    let settings := (s.settings i).withLogLevel logLevel
    let words := (LevelWord.ofString settings.logLevel, LevelWord.ofString settings.printLevel)
    { s.assign i settings with root := (s.root.setUp words.1 words.2).1 }
  | .note depth record =>
    { s with written := fun stream => s.written stream ++ s.added depth record stream }

/-- The session after some things have happened one after another. -/
def run (s : Session) (acts : List Act) : Session := acts.foldl take s

end Session

end BuildSpec.Log
