import BuildSpec.Schema.Basic
import BuildSpec.Value.Text

/-!
# What a value breaks

Every rule that a value or one of its parts breaks is an issue, told at the part in question.  The
issues come in the order of their places; those of one place in the order of the rules.  If the text
of an issue would hold a whole number of too many digits, none of the issues can be told; this also
goes for what is wrong with a value under one of several alternatives.
-/

namespace BuildSpec.Schema

/-- A rule that is broken: where, by the keys and positions that lead there, and how. -/
structure Issue where
  path : List String
  message : String
  deriving DecidableEq, Repr

namespace Issue

/-- An issue of a part, told from the whole. -/
def under (token : String) (i : Issue) : Issue := { i with path := token :: i.path }

/-- The pointer of the part in question. -/
def pointer (i : Issue) : String := Pointer.encode i.path

/-- The order of places, token by token. -/
def notAfter (i j : Issue) : Bool := !(j.path < i.path)

end Issue

/-- The issues of a value, if they can be told. -/
abbrev Findings := Except Number.LengthFault (List Issue)

/-- The issues that come of looking at several things one after another. -/
def Findings.ofAll {α : Type} (items : List α) (f : α → Findings) : Findings :=
  List.flatten <$> items.mapM f

/-- Whether a value is of a kind. -/
def Kind.holds (edition : Edition) : Kind → Value → Bool
  | null, .null => true
  | boolean, .bool _ => true
  | integer, .int _ => true
  | integer, .float x =>
    edition.wholeFloats && (match (Value.float x).asNumber? with
      | some (n, k) => n % Nat.pow 2 k == 0
      | none => false)
  | number, .int _ => true
  | number, .float _ => true
  | string, .text _ => true
  | array, .list _ => true
  | object, .map _ => true
  | _, _ => false

/-- Whether a value is of the kind that a word stands for. -/
def isKind (edition : Edition) (word : String) (v : Value) : Bool :=
  match Kind.ofWord? word with
  | some kind => kind.holds edition v
  | none => false

/-- How the rules beyond the value itself are looked at: what a reference leads to, and the rules
for a part of the value. -/
structure Scope where
  edition : Edition
  follow : String → Value → Findings
  part : List Rule → Value → Findings

namespace Scope

variable (scope : Scope)

/-- An issue of a value as a whole, which says something about the value. -/
def issue (v : Value) (message : String → String) : Findings := do
  return [⟨[], message (← v.writeShown)⟩]

/-- A schema that no value obeys.  That there is such a part is told of the value around it. -/
def isNever (rules : List Rule) : Bool := rules matches [.never]

/-- The issues of the part of a value that a token leads to. -/
def issuesAt (token : String) (rules : List Rule) (v : Value) : Findings := do
  let issues ← scope.part rules v
  return if isNever rules then issues else issues.map (Issue.under token)

/-- The entries of a value, if it is a mapping. -/
def entriesOf : Value → Entries
  | .map entries => entries
  | _ => []

/-- The issues of the part of a value under a key; a part under the null key is told as the value
itself. -/
def issuesUnder (key : Value) (rules : List Rule) (v : Value) : Findings := do
  let issues ← scope.part rules v
  if key matches .null || isNever rules || issues.isEmpty then return issues
  let token ← key.writePlain
  return issues.map (Issue.under token)

/-- Whether a key is none of the declared ones. -/
def isOther (declared : List String) : Value → Bool
  | .text name => !declared.contains name
  | _ => true

mutual

/-- The issues of a value under one rule. -/
def ruleIssues (v : Value) : Rule → Findings
  | .reference target => scope.follow target v
  | .kinds words =>
    if words.any fun w => isKind scope.edition w v then .ok []
    else issue v (· ++ " is not of type " ++ ", ".intercalate (words.map Text.quoted))
  | .properties fields =>
    .ofAll fields fun (name, rules) =>
      match Value.field? (entriesOf v) name with
      | some part => scope.issuesAt name rules part
      | none => .ok []
  | .otherProperties declared rules =>
    .ofAll (entriesOf v) fun (key, part) =>
      if isOther declared key then scope.issuesUnder key rules part else .ok []
  | .items rules =>
    match v with
    | .list items =>
      .ofAll items.zipIdx fun (item, i) => scope.issuesAt (toString i) rules item
    | _ => .ok []
  | .itemsInTurn schemas =>
    match v with
    | .list items =>
      .ofAll (items.zip schemas).zipIdx fun ((item, rules), i) =>
        scope.issuesAt (toString i) rules item
    | _ => .ok []
  | .noItems =>
    match v with
    | .list [] => .ok []
    | .list [item] => issue item ("Expected at most 0 items but found 1 extra: " ++ ·)
    | .list items =>
      issue v ("Expected at most 0 items but found " ++ toString items.length ++ " extra: " ++ ·)
    | _ => .ok []
  | .required names =>
    match v with
    | .map entries =>
      .ok ((names.filter fun name => !Value.hasField entries name).map fun name =>
        ⟨[], Text.quoted name ++ " is a required property"⟩)
    | _ => .ok []
  | .oneOf values => do
    if values.any fun x => Value.equalData x v then return []
    let choice ← (Value.list values).writeShown
    issue v (· ++ " is not one of " ++ choice)
  | .anyOf options => do
    if ← someHolds v options then return []
    issue v (· ++ " is not valid under any of the given schemas")
  | .never => issue v ("False schema does not allow " ++ ·)

/-- The issues of a value under a row of rules. -/
def rulesIssues (v : Value) : List Rule → Findings
  | [] => .ok []
  | rule :: rest => do return (← ruleIssues v rule) ++ (← rulesIssues v rest)

/-- Whether a value obeys at least one of some schemas; the first one that it obeys is the last one
that is looked at. -/
def someHolds (v : Value) : List (List Rule) → Except Number.LengthFault Bool
  | [] => .ok false
  | rules :: rest => do
    if (← rulesIssues v rules).isEmpty then return true
    someHolds v rest

end

end Scope

namespace Document

variable (document : Document)

/-- The issues of a value, where `part` looks at its parts and a number of references may be
followed one after another. -/
def issuesWithin (part : List Rule → Value → Findings) : Nat → List Rule → Value → Findings
  | 0, _, _ => .ok []
  | hops + 1, rules, v =>
    let follow (target : String) (v : Value) : Findings :=
      match document.targets.lookup target with
      | some rules => issuesWithin part hops rules v
      | none => .ok []
    Scope.rulesIssues ⟨document.edition, follow, part⟩ v rules

/-- The issues of a value down to a depth.  A chain of references that never reaches a part of the
value cannot be longer than there are references. -/
def issuesTo : Nat → List Rule → Value → Findings
  | 0, _, _ => .ok []
  | depth + 1, rules, v =>
    document.issuesWithin (issuesTo depth) (document.targets.length + 1) rules v

end Document

mutual

/-- The number of levels of a value. -/
def depth : Value → Nat
  | .list items | .tuple items | .set items => itemsDepth items + 1
  | .map entries => entriesDepth entries + 1
  | _ => 1

/-- The number of levels of the deepest item. -/
def itemsDepth : List Value → Nat
  | [] => 0
  | item :: rest => max (depth item) (itemsDepth rest)

/-- The number of levels of the deepest value of a mapping. -/
def entriesDepth : Entries → Nat
  | [] => 0
  | (_, value) :: rest => max (depth value) (entriesDepth rest)

end

namespace Document

/-- All issues of a value, in the order of the rules. -/
def rawIssues (document : Document) (v : Value) : Findings :=
  document.issuesTo (depth v) document.rules v

/-- The issues of a spec's data, in the order of their places.  Data that is no mapping is not
looked at any further. -/
def issues (document : Document) (v : Value) : Findings :=
  match v with
  | .map _ => (·.mergeSort Issue.notAfter) <$> document.rawIssues v
  | _ => .ok [⟨[], "Root must be a mapping/object"⟩]

end Document

end BuildSpec.Schema
