import BuildSpec.Schema.Basic

/-!
# Reading a schema

A schema is written as data: a mapping in which each key names a rule.  Keys that name no rule do
not count.  A reference is a pointer into the document behind a number sign.
-/

namespace BuildSpec.Schema

open BuildSpec.Value

/-- The texts in a list, or a single text. -/
def words : Value → List String
  | .text s => [s]
  | .list items => items.filterMap fun item => match item with
    | .text s => some s
    | _ => none
  | _ => []

/-- The text keys of a mapping. -/
def textKeys : Value → List String
  | .map entries => entries.filterMap fun e => match e.1 with
    | .text s => some s
    | _ => none
  | _ => []

mutual

/-- The rules of a schema. -/
def rulesOf (edition : Edition) : Value → List Rule
  | .bool false => [.never]
  | .map entries =>
    match edition.referenceAlone, field? entries "$ref" with
    | true, some (.text target) => [.reference target]
    | _, _ => entryRules edition (textKeys (field entries "properties")) entries
  | _ => []

/-- The rules that the entries of a schema name. -/
def entryRules (edition : Edition) (declared : List String) : Entries → List Rule
  | [] => []
  | (key, value) :: rest =>
    let rule := match key, value with
      | .text "$ref", .text target => [.reference target]
      | .text "type", kinds => [.kinds (words kinds)]
      | .text "properties", .map fields => [.properties (fieldRules edition fields)]
      | .text "additionalProperties", .map entries =>
        [.otherProperties declared (rulesOf edition (.map entries))]
      | .text "items", .list schemas =>
        if edition.itemsInTurn then [.itemsInTurn (schemaRules edition schemas)] else []
      | .text "items", schema =>
        if schema matches .bool false && !edition.itemsInTurn then [.noItems]
        else [.items (rulesOf edition schema)]
      | .text "required", names => [.required (words names)]
      | .text "enum", .list values => [.oneOf values]
      | .text "anyOf", .list options => [.anyOf (schemaRules edition options)]
      | _, _ => []
    rule ++ entryRules edition declared rest

/-- The rules of the schemas under text keys. -/
def fieldRules (edition : Edition) : Entries → List (String × List Rule)
  | [] => []
  | (.text name, schema) :: rest => (name, rulesOf edition schema) :: fieldRules edition rest
  | _ :: rest => fieldRules edition rest

/-- The rules of schemas one after another. -/
def schemaRules (edition : Edition) : List Value → List (List Rule)
  | [] => []
  | schema :: rest => rulesOf edition schema :: schemaRules edition rest

end

mutual

/-- The references in a document. -/
def references : Value → List String
  | .map entries => entryReferences entries
  | .list items => itemReferences items
  | _ => []

/-- The references in the entries of a mapping. -/
def entryReferences : Entries → List String
  | [] => []
  | (key, value) :: rest =>
    let here := match key, value with
      | .text "$ref", .text target => [target]
      | _, value => references value
    here ++ entryReferences rest

/-- The references in the items of a list. -/
def itemReferences : List Value → List String
  | [] => []
  | item :: rest => references item ++ itemReferences rest

end

/-- What a token of a pointer leads to. -/
def step? (token : String) : Value → Option Value
  | .map entries => field? entries token
  | .list items => token.toNat?.bind fun i => items[i]?
  | _ => none

/-- What a reference leads to. -/
def resolve? (document : Value) (reference : String) : Option Value :=
  match reference.toList with
  | '#' :: pointer =>
    (Pointer.decode pointer).foldlM (fun v token => step? (String.ofList token) v) document
  | _ => none

/-- The editions in which a reference stands alone. -/
def olderEditions : List String := ["draft-04", "draft-06", "draft-07"]

/-- The edition that a schema names; the latest one if it names none. -/
def editionOf (document : Value) : Edition :=
  let name := match document with
    | .map entries => match field entries "$schema" with
      | .text uri => uri
      | _ => ""
    | _ => ""
  let isEdition (e : String) : Bool :=
    let uri := "http://json-schema.org/" ++ e ++ "/schema"
    name = uri || name = uri ++ "#"
  let isOlder := olderEditions.any isEdition
  { referenceAlone := isOlder
    wholeFloats := !isEdition "draft-04"
    itemsInTurn := isOlder || name = "https://json-schema.org/draft/2019-09/schema" }

/-- Reads a schema. -/
def Document.ofValue (document : Value) : Document :=
  let edition := editionOf document
  let targets := (references document).filterMap fun r =>
    (resolve? document r).map fun v => (r, rulesOf edition v)
  ⟨edition, rulesOf edition document, targets⟩

end BuildSpec.Schema
