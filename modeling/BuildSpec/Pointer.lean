import BuildSpec.Text.Search

/-!
# Pointers

A pointer leads from the root of a document to one of its elements.  It is a text made of tokens,
the keys and positions on the way, each behind a slash; a slash or a tilde inside a token is
escaped.  The pointer of the root is empty.  Main statements:

* `encodeChars_append` — a longer way has a longer pointer, with the shorter one in front;
* `escape_no_slash` — a slash in a pointer is always the start of a token.
-/

namespace BuildSpec.Pointer

/-- A character inside a token: a tilde is `~0` and a slash is `~1`. -/
def escapeChar : Char → List Char
  | '~' => ['~', '0']
  | '/' => ['~', '1']
  | c => [c]

/-- A token with its tildes and slashes escaped. -/
def escape (token : List Char) : List Char := token.flatMap escapeChar

/-- The pointer of a row of tokens. -/
def encodeChars (tokens : List (List Char)) : List Char :=
  tokens.flatMap fun token => '/' :: escape token

/-- The pointer of a row of tokens. -/
def encode (tokens : List String) : String :=
  String.ofList (encodeChars (tokens.map String.toList))

/-- The pointer of an element directly below another one. -/
def child (pointer : String) (token : String) : String := pointer ++ encode [token]

theorem encodeChars_append (a b : List (List Char)) :
    encodeChars (a ++ b) = encodeChars a ++ encodeChars b := by
  simp [encodeChars]

theorem escapeChar_no_slash (c : Char) : '/' ∉ escapeChar c := by
  unfold escapeChar
  split <;> simp_all [eq_comm]

theorem escape_no_slash (token : List Char) : '/' ∉ escape token := by
  simp only [escape, List.mem_flatMap, not_exists, not_and]
  exact fun c _ => escapeChar_no_slash c

/-- The token that an escaped token stands for. -/
def unescape : List Char → List Char
  | '~' :: '0' :: rest => '~' :: unescape rest
  | '~' :: '1' :: rest => '/' :: unescape rest
  | c :: rest => c :: unescape rest
  | [] => []

/-- The tokens of a pointer. -/
def decode (pointer : List Char) : List (List Char) :=
  match Text.splitAt '/' pointer with
  | _ :: tokens => tokens.map unescape
  | [] => []

/-- The text itself and what is left of it when the parts behind its slashes are dropped one after
another, the longest first; `before` is the (reversed) text in front. -/
def enclosingFrom (before : List Char) : List Char → List (List Char)
  | [] => [before.reverse]
  | c :: rest =>
    if c = '/' then enclosingFrom (c :: before) rest ++ [before.reverse]
    else enclosingFrom (c :: before) rest

/-- The pointer of an element, of the element that holds it, and so on up to the root. -/
def enclosing (pointer : String) : List String :=
  (enclosingFrom [] pointer.toList).map String.ofList

/-- What is left of a text when its last slash and all behind it are dropped; a text without a slash
stays as it is. -/
def dropLast (pointer : String) : String :=
  if '/' ∈ pointer.toList then
    String.ofList ((pointer.toList.reverse.dropWhile (· ≠ '/')).drop 1).reverse
  else pointer

end BuildSpec.Pointer
