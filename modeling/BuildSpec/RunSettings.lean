import BuildSpec.Log

/-!
# Settings of a run

The environment may set the log level, the print level, and whether files that are read twice are
kept in memory.
-/

namespace BuildSpec

/-- The environment variables that a run looks at. -/
structure Environment where
  logLevel : Option String
  printLevel : Option String
  cacheEnabled : Option String
  sourceRoot : Option String

/-- The settings of a run. -/
structure RunSettings where
  logLevel : String
  printLevel : String
  cacheEnabled : Bool
  deriving DecidableEq, Repr

namespace RunSettings

/-- The settings if nothing is set. -/
def standard : RunSettings := ⟨"WARNING", "WARNING", false⟩

/-- The settings that an environment asks for; the cache is on only for the word `true`, in upper
or lower case. -/
def ofEnvironment (e : Environment) : RunSettings :=
  { logLevel := e.logLevel.getD standard.logLevel
    printLevel := e.printLevel.getD standard.printLevel
    cacheEnabled := Text.lower (e.cacheEnabled.getD "") = "true" }

/-- The settings with another log level, unless that is missing or empty. -/
def withLogLevel (s : RunSettings) : Option String → RunSettings
  | none | some "" => s
  | some level => { s with logLevel := level }

/-- Where the records of a run go; the print level is read first. -/
def routing (s : RunSettings) : Except Log.Fault Log.Routing := do
  let print ← match Log.LevelWord.ofString s.printLevel with
    | .level n => pure n
    | .layout => throw .layoutAsThreshold
    | .layouts => throw .layoutsAsThreshold
  match Log.LevelWord.ofString s.logLevel with
  | .level n => return .ofLevels n print
  | .layout => throw .layoutAsLevel
  | .layouts => throw .layoutsAsLevel

end RunSettings

end BuildSpec
