import BuildSpec.Pointer
import BuildSpec.Spec.Basic

/-!
# Defects

The ways in which a name or a path in a spec can lead nowhere.  A defect has a description for the
reader, and a pointer to the element of the spec that it is about, so that a report can tell the
line.
-/

namespace BuildSpec

/-- A reference in a spec that leads nowhere. -/
inductive Defect where
  | invalidTargetDependency (target dependency : String)
  | missingTargetSource (target source : String)
  | invalidTargetConfigFile (target configFile config : String)
  | invalidTargetSchemeConfigVariant (target configVariant : String) (configKind : ConfigKind)
  | invalidTargetSchemeTest (target testTarget : String)
  | invalidSchemeTarget (scheme target : String)
  | invalidSchemeConfig (scheme config : String)
  | invalidConfigFile (configFile config : String)
  | invalidBuildSettingConfig (config : String)
  | invalidSettingsGroup (group : String)
  | invalidBuildScriptPath (target : String) (scriptName : Option String) (path : String)
  | invalidFileGroup (group : String)
  | invalidConfigFileConfig (config : String)
  | missingConfigKind (target : String) (configKind : ConfigKind)
  deriving DecidableEq, Repr, Inhabited

namespace Defect

/-- The name of a defect's kind. -/
def kind : Defect → String
  | invalidTargetDependency .. => "invalid_target_dependency"
  | missingTargetSource .. => "missing_target_source"
  | invalidTargetConfigFile .. => "invalid_target_config_file"
  | invalidTargetSchemeConfigVariant .. => "invalid_target_scheme_config_variant"
  | invalidTargetSchemeTest .. => "invalid_target_scheme_test"
  | invalidSchemeTarget .. => "invalid_scheme_target"
  | invalidSchemeConfig .. => "invalid_scheme_config"
  | invalidConfigFile .. => "invalid_config_file"
  | invalidBuildSettingConfig .. => "invalid_build_setting_config"
  | invalidSettingsGroup .. => "invalid_settings_group"
  | invalidBuildScriptPath .. => "invalid_build_script_path"
  | invalidFileGroup .. => "invalid_file_group"
  | invalidConfigFileConfig .. => "invalid_config_file_config"
  | missingConfigKind .. => "missing_config_type_for_generated_target_scheme"

/-- A name between double quotes. -/
def inQuotes (name : String) : String := "\"" ++ name ++ "\""

/-- What a reader is told. -/
def description : Defect → String
  | invalidTargetDependency target dependency =>
    "Target " ++ inQuotes target ++ " has invalid dependency: " ++ inQuotes dependency
  | missingTargetSource target source =>
    "Target " ++ inQuotes target ++ " has a missing source directory " ++ inQuotes source
  | invalidTargetConfigFile target configFile config =>
    "Target " ++ inQuotes target ++ " has invalid config file " ++ inQuotes configFile
      ++ " for config " ++ inQuotes config
  | invalidTargetSchemeConfigVariant target configVariant configKind =>
    "Target " ++ inQuotes target ++ " has an invalid scheme config variant which requires a config"
      ++ " that has a " ++ inQuotes configKind.text ++ " type and contains the name "
      ++ inQuotes configVariant
  | invalidTargetSchemeTest target testTarget =>
    "Target " ++ inQuotes target ++ " scheme has invalid test " ++ inQuotes testTarget
  | invalidSchemeTarget scheme target =>
    "Scheme " ++ inQuotes scheme ++ " has invalid build target " ++ inQuotes target
  | invalidSchemeConfig scheme config =>
    "Scheme " ++ inQuotes scheme ++ " has invalid build configuration " ++ inQuotes config
  | invalidConfigFile configFile config =>
    "Invalid config file " ++ inQuotes configFile ++ " for config " ++ inQuotes config
  | invalidBuildSettingConfig config =>
    "Build setting has invalid build configuration " ++ inQuotes config
  | invalidSettingsGroup group => "Invalid settings group " ++ inQuotes group
  | invalidBuildScriptPath target scriptName path =>
    let named := match scriptName with
      | some name => inQuotes name ++ " which has a "
      | none => ""
    "Target " ++ inQuotes target ++ " has a script " ++ named ++ "path that doesn't exist "
      ++ inQuotes path
  | invalidFileGroup group => "Invalid file group " ++ inQuotes group
  | invalidConfigFileConfig config => "Config file has invalid config " ++ inQuotes config
  | missingConfigKind target configKind =>
    "Target " ++ inQuotes target ++ " is missing a config of type " ++ configKind.text
      ++ " to generate its scheme"

/-- The element that the defect is about.  Defects of settings, which can be anywhere in a spec,
are about the spec as a whole. -/
def pointer : Defect → String
  | invalidTargetDependency target _ => Pointer.encode ["targets", target, "dependencies"]
  | missingTargetSource target _ => Pointer.encode ["targets", target, "sources"]
  | invalidTargetConfigFile target _ config =>
    Pointer.encode ["targets", target, "configFiles", config]
  | invalidTargetSchemeConfigVariant target _ _ =>
    Pointer.encode ["targets", target, "scheme", "configVariants"]
  | invalidTargetSchemeTest target _ => Pointer.encode ["targets", target, "scheme", "testTargets"]
  | invalidSchemeTarget scheme target =>
    Pointer.encode ["schemes", scheme, "build", "targets", target]
  | invalidSchemeConfig scheme _ => Pointer.encode ["schemes", scheme]
  | invalidConfigFile _ config => Pointer.encode ["configFiles", config]
  | invalidBuildScriptPath target _ _ => Pointer.encode ["targets", target]
  | invalidFileGroup _ => Pointer.encode ["fileGroups"]
  | missingConfigKind target _ => Pointer.encode ["targets", target, "scheme"]
  | invalidBuildSettingConfig _ | invalidSettingsGroup _ | invalidConfigFileConfig _ => ""

/-- The text for all defects of a spec at once: one is told on the same line, several are counted
and listed. -/
def summary (defects : List Defect) : String :=
  let title :=
    if defects.length = 1 then "Spec validation error: "
    else toString defects.length ++ " spec validation errors:\n\t- "
  title ++ "\n\t- ".intercalate (defects.map description)

end Defect

end BuildSpec
