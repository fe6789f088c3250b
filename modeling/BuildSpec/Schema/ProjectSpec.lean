import BuildSpec.Schema.Read

/-!
# The schema of project specs

The shape that the data of a spec file must have before it is read: which parts are mappings, lists
and texts, and which keys a part must have.  Keys that are not mentioned are free.
-/

namespace BuildSpec.Schema

/-- A mapping with text keys. -/
def object (fields : List (String × Value)) : Value :=
  .map (fields.map fun (name, value) => (.text name, value))

/-- The schema of project specs as data. -/
def projectSpecData : Value :=
  object [
    ("$schema", .text "http://json-schema.org/draft-07/schema#"),
    ("$id", .text "project_spec.json"),
    ("title", .text "Project spec"),
    ("type", .text "object"),
    ("definitions", object [
      ("stringList", object [("type", .text "array"), ("items", object [("type", .text "string")])]),
      ("configFiles", object [
        ("type", .text "object"),
        ("additionalProperties", object [("type", .text "string")])]),
      ("settings", object [
        ("type", .text "object"),
        ("properties", object [
          ("base", object [("type", .text "object")]),
          ("groups", object [("$ref", .text "#/definitions/stringList")]),
          ("configs", object [
            ("type", .text "object"),
            ("additionalProperties", object [
              ("anyOf", .list [
                object [("$ref", .text "#/definitions/settings")],
                object [("type", .text "null")]])])])])]),
      ("buildScript", object [
        ("type", .text "object"),
        ("properties", object [
          ("name", object [("type", .text "string")]),
          ("path", object [("type", .text "string")]),
          ("script", object [("type", .text "string")])]),
        ("anyOf", .list [
          object [("required", .list [.text "path"])],
          object [("required", .list [.text "script"])]])]),
      ("buildScripts", object [
        ("type", .text "array"),
        ("items", object [("$ref", .text "#/definitions/buildScript")])]),
      ("dependency", object [
        ("type", .text "object"),
        ("anyOf", .list [
          object [("required", .list [.text "target"])],
          object [("required", .list [.text "framework"])],
          object [("required", .list [.text "carthage"])],
          object [("required", .list [.text "sdk"])],
          object [("required", .list [.text "package"])]])]),
      ("sources", object [
        ("anyOf", .list [
          object [("type", .text "string")],
          object [
            ("type", .text "array"),
            ("items", object [
              ("anyOf", .list [
                object [("type", .text "string")],
                object [
                  ("type", .text "object"),
                  ("required", .list [.text "path"]),
                  ("properties", object [("path", object [("type", .text "string")])])]])])]])]),
      ("target", object [
        ("type", .text "object"),
        ("properties", object [
          ("type", object [("type", .text "string")]),
          ("platform", object [("type", .text "string")]),
          ("sources", object [("$ref", .text "#/definitions/sources")]),
          ("dependencies", object [
            ("type", .text "array"),
            ("items", object [("$ref", .text "#/definitions/dependency")])]),
          ("configFiles", object [("$ref", .text "#/definitions/configFiles")]),
          ("scheme", object [
            ("type", .text "object"),
            ("properties", object [
              ("configVariants", object [("$ref", .text "#/definitions/stringList")]),
              ("testTargets", object [("$ref", .text "#/definitions/stringList")])])]),
          ("prebuildScripts", object [("$ref", .text "#/definitions/buildScripts")]),
          ("postbuildScripts", object [("$ref", .text "#/definitions/buildScripts")]),
          ("settings", object [("$ref", .text "#/definitions/settings")])])]),
      ("buildAction", object [
        ("type", .text "object"),
        ("required", .list [.text "config"]),
        ("properties", object [("config", object [("type", .text "string")])])]),
      ("scheme", object [
        ("type", .text "object"),
        ("properties", object [
          ("build", object [
            ("type", .text "object"),
            ("properties", object [
              ("targets", object [
                ("type", .text "object"),
                ("additionalProperties", object [
                  ("anyOf", .list [
                    object [("type", .text "string")],
                    object [("$ref", .text "#/definitions/stringList")]])])])])]),
          ("run", object [("$ref", .text "#/definitions/buildAction")]),
          ("test", object [("$ref", .text "#/definitions/buildAction")]),
          ("profile", object [("$ref", .text "#/definitions/buildAction")]),
          ("analyze", object [("$ref", .text "#/definitions/buildAction")]),
          ("archive", object [("$ref", .text "#/definitions/buildAction")])])])]),
    ("properties", object [
      ("name", object [("type", .text "string")]),
      ("options", object [
        ("type", .text "object"),
        ("properties", object [("minimumVersion", object [("type", .text "string")])])]),
      ("configs", object [
        ("type", .text "object"),
        ("additionalProperties", object [("enum", .list [.text "debug", .text "release"])])]),
      ("settings", object [("$ref", .text "#/definitions/settings")]),
      ("settingGroups", object [
        ("type", .text "object"),
        ("additionalProperties", object [("$ref", .text "#/definitions/settings")])]),
      ("settingPresets", object [
        ("type", .text "object"),
        ("additionalProperties", object [("$ref", .text "#/definitions/settings")])]),
      ("fileGroups", object [("$ref", .text "#/definitions/stringList")]),
      ("configFiles", object [("$ref", .text "#/definitions/configFiles")]),
      ("targets", object [
        ("type", .text "object"),
        ("additionalProperties", object [("$ref", .text "#/definitions/target")])]),
      ("schemes", object [
        ("type", .text "object"),
        ("additionalProperties", object [("$ref", .text "#/definitions/scheme")])])])]

/-- The schema of project specs. -/
def projectSpec : Document := .ofValue projectSpecData

end BuildSpec.Schema
