import BuildSpec.Yaml.Timestamp
import BuildSpec.Text.Search

/-!
# Tags

A tag says what kind of value a node stands for.  A plain scalar without a tag gets one from its
text: it may read as nothing, a truth value, a whole or a floating-point number, a day or a moment,
the mark of a merge or of a default, or an indicator, and is a text otherwise.  A number may group
its digits with underscores, and may be written with colons in base sixty.
-/

namespace BuildSpec.Yaml

/-- The kinds of nodes. -/
inductive Tag where
  | null
  | bool
  | int
  | float
  | binary
  | timestamp
  | str
  | seq
  | map
  | set
  | omap
  | pairs
  | merge
  | default
  | other (uri : String)
  deriving DecidableEq, Repr, Inhabited

namespace Tag

/-- The tags with a name of their own. -/
def named : List (String × Tag) :=
  [("null", null), ("bool", bool), ("int", int), ("float", float), ("binary", binary),
   ("timestamp", timestamp), ("str", str), ("seq", seq), ("map", map), ("set", set),
   ("omap", omap), ("pairs", pairs), ("merge", merge), ("value", default)]

/-- What the names of these tags start with. -/
def namespaceUri : String := "tag:yaml.org,2002:"

/-- A tag written out. -/
def ofUri (uri : String) : Tag :=
  ((named.find? fun (name, _) => namespaceUri ++ name = uri).map Prod.snd).getD (other uri)

/-- The tag of an indicator that stands alone.  Nodes with this tag have no value. -/
def indicator : Tag := other (namespaceUri ++ "yaml")

/-- How a tag is written out. -/
def uri : Tag → String
  | other uri => uri
  | t => ((named.find? fun (_, tag) => tag = t).map fun (name, _) => namespaceUri ++ name).getD ""

/-- The tags of nodes that hold other nodes as their value. -/
def isContainer : Tag → Bool
  | seq | map | set | omap | pairs => true
  | _ => false

/-- The tags of nodes that stand for a scalar. -/
def isScalar : Tag → Bool
  | null | bool | int | float | binary | timestamp | str => true
  | _ => false

/-- The tags of sequences whose items are mappings with one entry each. -/
def isOfPairs : Tag → Bool
  | omap | pairs => true
  | _ => false

end Tag

/-! ### The tag of a plain scalar -/

/-- An ASCII digit or an underscore. -/
def isGroupDigit (c : Char) : Bool := c.isDigit || c = '_'

/-- Drops a sign. -/
def dropSign : List Char → List Char
  | '-' :: rest => rest
  | '+' :: rest => rest
  | s => s

/-- A part of a number in base sixty: one digit, or two of which the first is at most five. -/
def isSixtieth : List Char → Bool
  | [d] => d.isDigit
  | [t, d] => '0' ≤ t && t ≤ '5' && d.isDigit
  | _ => false

/-- Digits and underscores, starting with a digit. -/
def isGrouped : List Char → Bool
  | d :: rest => d.isDigit && rest.all isGroupDigit
  | [] => false

/-- A whole number: binary, octal, decimal, hexadecimal or in base sixty. -/
def readsAsInteger (s : List Char) : Bool :=
  let s := dropSign s
  let decimal (s : List Char) : Bool := isGrouped s && s.head? ≠ some '0'
  match s with
  | '0' :: 'b' :: digits => !digits.isEmpty && digits.all fun c => c = '0' || c = '1' || c = '_'
  | '0' :: 'x' :: digits =>
    !digits.isEmpty && digits.all fun c =>
      isGroupDigit c || ('a' ≤ c && c ≤ 'f') || ('A' ≤ c && c ≤ 'F')
  | ['0'] => true
  | '0' :: digits => digits.all fun c => ('0' ≤ c && c ≤ '7') || c = '_'
  | s => match Text.splitAt ':' s with
    | first :: more => decimal first && more.all isSixtieth
    | [] => false

/-- Nothing, or the exponent of a floating-point number, which has a sign. -/
def isExponent : List Char → Bool
  | [] => true
  | e :: sign :: digits =>
    (e = 'e' || e = 'E') && (sign = '-' || sign = '+') && !digits.isEmpty
      && digits.all Char.isDigit
  | _ => false

/-- A floating-point number: digits around a point, possibly with an exponent or in base sixty; an
infinity; or no number. -/
def readsAsFloat (s : List Char) : Bool :=
  let size := dropSign s
  let whole := size.takeWhile (· ≠ '.')
  match size.dropWhile (· ≠ '.') with
  | '.' :: fraction =>
    let afterDigits := fraction.dropWhile isGroupDigit
    let isWord (words : List String) : Bool := words.contains (String.ofList fraction)
    if whole.isEmpty then
      isWord ["inf", "Inf", "INF"]
        || (size.length = s.length
          && (isWord ["nan", "NaN", "NAN"]
            || ((fraction.head?.map Char.isDigit).getD false && isExponent afterDigits)))
    else match Text.splitAt ':' whole with
      | [digits] => isGrouped digits && isExponent afterDigits
      | digits :: more => isGrouped digits && more.all isSixtieth && afterDigits.isEmpty
      | [] => false
  | _ => false

/-- The words for truth values. -/
def truthWords : List String :=
  ["yes", "Yes", "YES", "no", "No", "NO", "true", "True", "TRUE", "false", "False", "FALSE",
   "on", "On", "ON", "off", "Off", "OFF"]

/-- The tag that a scalar's text implies, if it need not be a text.  One line feed at the end does
not count, except in the empty text. -/
def impliedTag (text : String) : Tag :=
  let chars := text.toList
  let word := match chars.reverse with
    | '\n' :: c :: rest => (c :: rest).reverse
    | _ => chars
  let s := String.ofList word
  if truthWords.contains s then .bool
  else if readsAsFloat word then .float
  else if readsAsInteger word then .int
  else if s = "<<" then .merge
  else if ["~", "null", "Null", "NULL", ""].contains s then .null
  else if readsAsTimestamp word then .timestamp
  else if s = "=" then .default
  else if ["!", "&", "*"].contains s then .indicator
  else .str

end BuildSpec.Yaml
