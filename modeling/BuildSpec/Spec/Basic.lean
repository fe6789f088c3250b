import BuildSpec.Path
import BuildSpec.Value.Basic

/-!
# Project specs

A project spec describes what a project is built of: configurations, groups of build settings,
targets, schemes, and the files that these need.  Its parts refer to each other by name.  Nothing
here resolves the names, so a spec with a name that leads nowhere is still a spec.
-/

namespace BuildSpec

/-- Whether a configuration is meant for debugging or for release. -/
inductive ConfigKind where
  | debug
  | release
  deriving DecidableEq, Repr, Inhabited

/-- The word for a kind of configuration. -/
def ConfigKind.text : ConfigKind → String
  | debug => "debug"
  | release => "release"

/-- The kinds of configurations. -/
def ConfigKind.all : List ConfigKind := [debug, release]

/-- The kind that a word stands for. -/
def ConfigKind.ofText? (s : String) : Option ConfigKind := all.find? fun k => k.text = s

/-- A build configuration. -/
structure Config where
  name : String
  kind : ConfigKind
  deriving DecidableEq, Repr, Inhabited

/-- The configurations of a spec that declares none. -/
def Config.defaults : List Config := [⟨"Debug", .debug⟩, ⟨"Release", .release⟩]

/-- Build settings, together with the groups of settings that they include and the settings that
are for some configurations only. -/
structure Settings where
  buildSettings : Entries
  groups : List String
  configSettings : List (String × Settings)
  deriving Inhabited

/-- No settings at all. -/
def Settings.none : Settings := ⟨[], [], []⟩

/-- Whether nothing is set or included. -/
def Settings.isEmpty (s : Settings) : Bool :=
  s.buildSettings.isEmpty && s.groups.isEmpty && s.configSettings.isEmpty

/-- What a target can depend on. -/
inductive DependencyKind where
  | target
  | framework
  | carthage
  | sdk
  | package
  deriving DecidableEq, Repr, Inhabited

/-- The word for a kind of dependency. -/
def DependencyKind.text : DependencyKind → String
  | target => "target"
  | framework => "framework"
  | carthage => "carthage"
  | sdk => "sdk"
  | package => "package"

/-- The kinds of dependencies, in the order in which they are looked for. -/
def DependencyKind.all : List DependencyKind := [target, framework, carthage, sdk, package]

/-- The kind that a word stands for. -/
def DependencyKind.ofText? (s : String) : Option DependencyKind := all.find? fun k => k.text = s

/-- Something that a target needs. -/
structure Dependency where
  kind : DependencyKind
  reference : String
  deriving DecidableEq, Repr, Inhabited

/-- Where the text of a script is: in a file, or in the spec itself. -/
inductive ScriptSource where
  | path (path : String)
  | inline (text : String)
  deriving DecidableEq, Repr, Inhabited

/-- A script that runs before or after a target is built. -/
structure BuildScript where
  source : ScriptSource
  name : Option String
  deriving DecidableEq, Repr, Inhabited

/-- What the scheme that is generated for a target covers. -/
structure TargetScheme where
  configVariants : List String
  testTargets : List String
  deriving DecidableEq, Repr, Inhabited

/-- Something that is built. -/
structure Target where
  name : String
  type : String
  platform : String
  sources : List String
  dependencies : List Dependency
  configFiles : List (String × String)
  scheme : Option TargetScheme
  prebuildScripts : List BuildScript
  postbuildScripts : List BuildScript
  settings : Settings
  deriving Inhabited

/-- A target with a name and nothing else. -/
def Target.named (name : String) : Target :=
  ⟨name, "", "", [], [], [], .none, [], [], .none⟩

/-- A target of a scheme, and what it is built for. -/
structure BuildTarget where
  target : String
  buildTypes : List String
  deriving DecidableEq, Repr, Inhabited

/-- The things that a scheme can be asked to do, in the order in which they are listed. -/
inductive SchemeAction where
  | run
  | test
  | profile
  | analyze
  | archive
  deriving DecidableEq, Repr, Inhabited

/-- The word for an action. -/
def SchemeAction.text : SchemeAction → String
  | run => "run"
  | test => "test"
  | profile => "profile"
  | analyze => "analyze"
  | archive => "archive"

/-- The actions in their order. -/
def SchemeAction.all : List SchemeAction := [run, test, profile, analyze, archive]

/-- A scheme: the targets that it builds, and the configuration for each action. -/
structure Scheme where
  name : String
  build : List BuildTarget
  run : Option String
  test : Option String
  profile : Option String
  analyze : Option String
  archive : Option String
  deriving DecidableEq, Repr, Inhabited

namespace Scheme

/-- The configuration for an action, if the scheme has the action. -/
def action? (s : Scheme) : SchemeAction → Option String
  | .run => s.run
  | .test => s.test
  | .profile => s.profile
  | .analyze => s.analyze
  | .archive => s.archive

/-- The actions that the scheme has, with their configurations, in the order of actions. -/
def actions (s : Scheme) : List (SchemeAction × String) :=
  SchemeAction.all.filterMap fun a => (s.action? a).map (a, ·)

end Scheme

/-- A project spec.  The paths in it are relative to the base path.  Names are unique among setting
groups and among the configurations of a row of config files. -/
structure ProjectSpec where
  name : String
  basePath : Path
  configs : List Config
  settingGroups : List (String × Settings)
  settings : Settings
  targets : List Target
  schemes : List Scheme
  fileGroups : List String
  configFiles : List (String × String)
  minimumVersion : Value
  deriving Inhabited

namespace ProjectSpec

/-- The first target with a name. -/
def target? (spec : ProjectSpec) (name : String) : Option Target :=
  spec.targets.find? fun t => t.name = name

/-- The first configuration with a name. -/
def config? (spec : ProjectSpec) (name : String) : Option Config :=
  spec.configs.find? fun c => c.name = name

/-- Whether a target has a name. -/
def hasTarget (spec : ProjectSpec) (name : String) : Bool :=
  spec.targets.any fun t => t.name = name

/-- Whether a configuration has a name. -/
def hasConfig (spec : ProjectSpec) (name : String) : Bool :=
  spec.configs.any fun c => c.name = name

/-- The group of settings with a name. -/
def group? (spec : ProjectSpec) (name : String) : Option Settings :=
  spec.settingGroups.lookup name

end ProjectSpec

end BuildSpec
