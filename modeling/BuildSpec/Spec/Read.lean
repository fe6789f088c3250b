import BuildSpec.Log
import BuildSpec.Spec.Basic
import BuildSpec.Value.Equal
import BuildSpec.Value.Text

/-!
# Reading a spec out of data

The mapping in a spec file is shaped into a spec, part by part in a fixed order.  Reading only looks
at shapes; whether a name or a path leads somewhere is another question.  A part that is empty,
false or null counts as absent, and names and other texts may be values of any kind, which are
written out.
-/

namespace BuildSpec

/-- Why data has not the shape of a spec.  A `place` tells the part in question. -/
inductive ShapeFault where
  | wrongKind (place expected found : String)
  | configKind (config kind : String)
  | source (place shown : String)
  | dependency (place : String)
  | script (place : String)
  | buildTypes (place : String)
  | action (place : String)
  /-- A list is expected where a value without items stands. -/
  | noItems (kind : String)
  /-- A whole number is too long to be written out. -/
  | tooLong (fault : Number.LengthFault)
  deriving DecidableEq, Repr

namespace ShapeFault

/-- A row of words, each between single quotes, inside square brackets. -/
def wordList (words : List String) : String :=
  "[" ++ ", ".intercalate (words.map fun w => "'" ++ w ++ "'") ++ "]"

/-- The words for a fault. -/
def message : ShapeFault → String
  | wrongKind place expected found =>
    "'" ++ place ++ "' must be of type " ++ expected ++ ", got " ++ found
  | configKind config kind =>
    "Config '" ++ config ++ "' has invalid type '" ++ kind ++ "'. Valid types: "
      ++ wordList (ConfigKind.all.map ConfigKind.text)
  | source place shown => "Invalid source entry in '" ++ place ++ "': " ++ shown
  | dependency place =>
    "Dependency in '" ++ place ++ "' must have one of the keys "
      ++ wordList (DependencyKind.all.map DependencyKind.text)
  | script place => "Build script in '" ++ place ++ "' needs either 'path' or 'script'"
  | buildTypes place => "Build types of '" ++ place ++ "' must be a string or list"
  | action place => "'" ++ place ++ "' is missing required field 'config'"
  | noItems kind => "'" ++ kind ++ "' object is not iterable"
  | tooLong fault => fault.message

end ShapeFault

/-- The table that results from writing named entries one after another. -/
def tableOf {α : Type} (entries : List (String × α)) : List (String × α) :=
  Table.ofEntries (· == ·) entries

namespace Value

/-- The text that stands for a value of any kind. -/
def asText (v : Value) : Except ShapeFault String := v.writePlain.mapError .tooLong

/-- The entries of a value that must be a mapping. -/
def expectMap (place : String) : Value → Except ShapeFault Entries
  | map entries => .ok entries
  | v => .error (.wrongKind place "dict" v.kindName)

/-- The items of a value that must be a list. -/
def expectList (place : String) : Value → Except ShapeFault (List Value)
  | list items => .ok items
  | v => .error (.wrongKind place "list" v.kindName)

/-- The entries of a mapping that may be absent. -/
def mapOrAbsent (place : String) (v : Value) : Except ShapeFault Entries :=
  if v.isBlank then .ok [] else v.expectMap place

/-- The items of a list that may be absent. -/
def listOrAbsent (place : String) (v : Value) : Except ShapeFault (List Value) :=
  if v.isBlank then .ok [] else v.expectList place

/-- The items of a value of any kind that has some: a text has its characters, a mapping its
keys. -/
def anyItems : Value → Except ShapeFault (List Value)
  | list items | tuple items | set items => .ok items
  | map entries => .ok (entries.map Prod.fst)
  | text s => .ok (s.toList.map fun c => text (String.singleton c))
  | bytes b => .ok (b.map fun x => int x.toNat)
  | day _ => .error (.noItems "datetime.date")
  | moment _ => .error (.noItems "datetime.datetime")
  | v => .error (.noItems v.kindName)

/-- The items of a value of any kind, which may be absent, as texts. -/
def textsOrAbsent (v : Value) : Except ShapeFault (List String) := do
  if v.isBlank then return [] else (← v.anyItems).mapM asText

end Value

namespace ProjectSpec

open Value

/-- The keys that make a mapping of settings a structured one. -/
def settingsKeys : List String := ["base", "groups", "configs"]

mutual

/-- Reads settings.  A mapping without any of the keys for structure is a mapping of build
settings. -/
def readSettings (place : String) : Value → Except ShapeFault Settings
  | .null => .ok .none
  | .map entries => do
    if !settingsKeys.any (hasField entries) then return ⟨entries, [], []⟩
    let groups ← (field entries "groups").listOrAbsent (place ++ ".groups")
    let configSettings ← readConfigsIn (place ++ ".configs") entries
    let base ← (field entries "base").mapOrAbsent (place ++ ".base")
    return ⟨base, ← groups.mapM asText, tableOf configSettings⟩
  | v => .error (.wrongKind place "dict" v.kindName)

/-- Reads the settings for configurations, in the entry for them if there is one. -/
def readConfigsIn (place : String) : Entries → Except ShapeFault (List (String × Settings))
  | [] => .ok []
  | (.text "configs", value) :: _ => readConfigs place value
  | _ :: rest => readConfigsIn place rest

/-- Reads the settings for configurations. -/
def readConfigs (place : String) : Value → Except ShapeFault (List (String × Settings))
  | .map entries => readConfigEntries place entries
  | v => if v.isBlank then .ok [] else .error (.wrongKind place "dict" v.kindName)

/-- Reads the settings for one configuration after another. -/
def readConfigEntries (place : String) :
    Entries → Except ShapeFault (List (String × Settings))
  | [] => .ok []
  | (key, value) :: rest => do
    let config ← key.asText
    let settings ←
      if value.isBlank then pure .none else readSettings (place ++ "." ++ config) value
    return (config, settings) :: (← readConfigEntries place rest)

end

/-- Reads the configurations; without any, there are two of them. -/
def readConfigurations : Value → Except ShapeFault (List Config)
  | .null => .ok Config.defaults
  | v => do
    (← v.expectMap "configs").mapM fun (key, value) => do
      let name ← key.asText
      let word ← value.asText
      let kind? := match value with
        | .text word => ConfigKind.ofText? word
        | _ => none
      match kind? with
      | some kind => return ⟨name, kind⟩
      | none => throw (.configKind name word)

/-- Reads the groups of settings, which have an older name too. -/
def readSettingGroups (data : Entries) : Except ShapeFault (List (String × Settings)) := do
  let raw := match field data "settingGroups" with
    | .null => field data "settingPresets"
    | v => v
  let groups ← (← raw.mapOrAbsent "settingGroups").mapM fun (key, value) => do
    let group ← key.asText
    let settings ←
      if value.isBlank then pure .none else readSettings ("settingGroups." ++ group) value
    return (group, settings)
  return tableOf groups

/-- Reads the config files of configurations. -/
def readConfigFiles (place : String) (v : Value) : Except ShapeFault (List (String × String)) := do
  let entries ← (← v.mapOrAbsent place).mapM fun (key, value) => do
    return (← key.asText, ← value.asText)
  return tableOf entries

/-- Reads an item of the sources of a target: a text, or a mapping with a path. -/
def readSource (place : String) (v : Value) : Except ShapeFault String :=
  let path? : Option Value := match v with
    | .text s => some (.text s)
    | .map entries => field? entries "path"
    | _ => none
  match path? with
  | some path => path.asText
  | none => do throw (ShapeFault.source place (← v.writeShown.mapError .tooLong))

/-- Reads the sources of a target: a text or a list. -/
def readSources (place : String) : Value → Except ShapeFault (List String)
  | .null => .ok []
  | .text s => .ok [s]
  | v => do (← v.expectList place).mapM (readSource place)

/-- Reads a dependency: the first kind that the mapping has a key for counts. -/
def readDependency (place : String) (v : Value) : Except ShapeFault Dependency := do
  let entries ← v.expectMap place
  match DependencyKind.all.findSome? fun kind => (field? entries kind.text).map (kind, ·) with
  | some (kind, reference) => return ⟨kind, ← reference.asText⟩
  | none => throw (.dependency place)

/-- Reads a script; a path counts before a text. -/
def readScript (place : String) (v : Value) : Except ShapeFault BuildScript := do
  let entries ← v.expectMap place
  let source ← match field? entries "path", field? entries "script" with
    | some path, _ => .path <$> path.asText
    | none, some script => .inline <$> script.asText
    | none, none => throw (.script place)
  match field entries "name" with
  | .null => return ⟨source, none⟩
  | name => return ⟨source, some (← name.asText)⟩

/-- Reads the scripts that run before or after a target is built. -/
def readScripts (place : String) (v : Value) : Except ShapeFault (List BuildScript) := do
  (← v.listOrAbsent place).mapM (readScript place)

/-- Reads the scheme of a target. -/
def readTargetScheme (place : String) : Value → Except ShapeFault (Option TargetScheme)
  | .null => .ok none
  | v => do
    let entries ← v.expectMap place
    let configVariants ← (field entries "configVariants").textsOrAbsent
    let testTargets ← (field entries "testTargets").textsOrAbsent
    return some ⟨configVariants, testTargets⟩

/-- Reads a target. -/
def readTarget (name : String) (v : Value) : Except ShapeFault Target := do
  let place := "targets." ++ name
  let entries ← v.mapOrAbsent place
  let textOf (key : String) : Except ShapeFault String :=
    ((field? entries key).getD (.text "")).asText
  let part (key : String) : Value := field entries key
  let placeOf (key : String) : String := place ++ "." ++ key
  let scheme ← readTargetScheme (placeOf "scheme") (part "scheme")
  let type ← textOf "type"
  let platform ← textOf "platform"
  let sources ← readSources (placeOf "sources") (part "sources")
  let dependencies ← (part "dependencies").listOrAbsent (placeOf "dependencies")
  let dependencies ← dependencies.mapM (readDependency (placeOf "dependencies"))
  let configFiles ← readConfigFiles (placeOf "configFiles") (part "configFiles")
  let prebuildScripts ← readScripts (placeOf "prebuildScripts") (part "prebuildScripts")
  let postbuildScripts ← readScripts (placeOf "postbuildScripts") (part "postbuildScripts")
  let settings ← readSettings (placeOf "settings") (part "settings")
  return { name, type, platform, sources, dependencies, configFiles, scheme, prebuildScripts,
           postbuildScripts, settings }

/-- Reads the targets. -/
def readTargets (v : Value) : Except ShapeFault (List Target) := do
  (← v.mapOrAbsent "targets").mapM fun (key, value) => do readTarget (← key.asText) value

/-- Reads what a target of a scheme is built for: a text or a list. -/
def readBuildTarget (place : String) (name : String) : Value → Except ShapeFault BuildTarget
  | .text s => .ok ⟨name, [s]⟩
  | .list items => do return ⟨name, ← items.mapM asText⟩
  | _ => .error (.buildTypes (place ++ "." ++ name))

/-- Reads the configuration of an action, if the scheme has the action. -/
def readAction (place : String) : Value → Except ShapeFault (Option String)
  | .null => .ok none
  | v => do
    let entries ← v.expectMap place
    match field? entries "config" with
    | some config => return some (← config.asText)
    | none => throw (.action place)

/-- Reads a scheme. -/
def readScheme (name : String) (v : Value) : Except ShapeFault Scheme := do
  let place := "schemes." ++ name
  let entries ← v.mapOrAbsent place
  let build ← (field entries "build").mapOrAbsent (place ++ ".build")
  let action (a : SchemeAction) : Except ShapeFault (Option String) :=
    readAction (place ++ "." ++ a.text) (field entries a.text)
  let run ← action .run
  let test ← action .test
  let profile ← action .profile
  let analyze ← action .analyze
  let archive ← action .archive
  let targetsPlace := place ++ ".build.targets"
  let targets ← (← (field build "targets").mapOrAbsent targetsPlace).mapM
    fun (key, value) => do readBuildTarget targetsPlace (← key.asText) value
  return { name, build := targets, run, test, profile, analyze, archive }

/-- Reads the schemes. -/
def readSchemes (v : Value) : Except ShapeFault (List Scheme) := do
  (← v.mapOrAbsent "schemes").mapM fun (key, value) => do readScheme (← key.asText) value

/-- Reads a spec.  Its paths are relative to the base path, and a spec without a name gets the
default one. -/
def read (basePath : Path) (defaultName : String) (v : Value) :
    Except ShapeFault ProjectSpec := do
  let data ← v.expectMap "spec"
  let part (key : String) : Value := field data key
  let name ← if (part "name").isBlank then pure defaultName else (part "name").asText
  let configs ← readConfigurations (part "configs")
  let settingGroups ← readSettingGroups data
  let settings ← readSettings "settings" (part "settings")
  let targets ← readTargets (part "targets")
  let schemes ← readSchemes (part "schemes")
  let fileGroups ← (← (part "fileGroups").listOrAbsent "fileGroups").mapM asText
  let configFiles ← readConfigFiles "configFiles" (part "configFiles")
  let options ← (part "options").mapOrAbsent "options"
  return { name, basePath, configs, settingGroups, settings, targets, schemes,
           fileGroups, configFiles,
           minimumVersion := field options "minimumVersion" }

/-- What reading a spec writes to the log. -/
def readLog (spec : ProjectSpec) : List Log.Record :=
  [⟨"project_spec_designer.models.parsing.spec_parser", Log.debug,
    "Parsed spec '" ++ spec.name ++ "' with " ++ toString spec.configs.length ++ " configs, "
      ++ toString spec.targets.length ++ " targets and " ++ toString spec.schemes.length
      ++ " schemes"⟩]

end ProjectSpec

end BuildSpec
