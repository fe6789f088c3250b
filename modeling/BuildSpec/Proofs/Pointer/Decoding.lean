import BuildSpec.Proofs.SpecFile.Lookup
import BuildSpec.Text.Replace

/-!
# Pointers are decoded in one way

A token is escaped by two replacements in turn, first that of its tildes and then that of its
slashes, and it comes back by the opposite replacements in the opposite order.  The order matters:
a token may hold `~1` itself, of which the tilde has been escaped.

* `escape_eq_replace`, `unescaped_escape` — escaping by replacing, and the way back;
* `tokensOf_encode` — a pointer, cut at its slashes, gives back its tokens;
* `foldl_child` — a pointer that grows token by token is the pointer of the row;
* `existsUnique_entry` — a source map has one entry for each row that leads to an element of the
  document;
* `pointers_are_uniquely_decodable` — pointers, whoever makes them, can be taken apart.
-/

namespace BuildSpec

namespace Pointer

open Text (replace)

/-! ## Tokens by replacing -/

/-- A token is escaped by replacing its tildes and after that its slashes. -/
theorem escape_eq_replace (token : List Char) :
    escape token = replace '/' [] ['~', '1'] (replace '~' [] ['~', '0'] token) := by
  induction token using token_induction with
  | nil => rfl
  | tilde rest ih =>
      rw [escape_tilde, ih, Text.replace_singleton, List.cons_append, List.cons_append,
        List.nil_append, Text.replace_cons_of_ne (by decide), Text.replace_cons_of_ne (by decide)]
  | slash rest ih =>
      rw [escape_slash, ih, Text.replace_cons_of_ne (by decide), Text.replace_singleton]
      rfl
  | other c rest htilde hslash ih =>
      rw [escape_cons_of_ne htilde hslash, ih, Text.replace_cons_of_ne htilde,
        Text.replace_cons_of_ne hslash]

/-- A token, escaped by replacing first its tildes and then its slashes. -/
def escaped (token : String) : String :=
  String.ofList (replace '/' [] ['~', '1'] (replace '~' [] ['~', '0'] token.toList))

/-- The token that an escaped token stands for, by replacing first `~1` and then `~0`. -/
def unescaped (part : String) : String :=
  String.ofList (replace '~' ['0'] ['~'] (replace '~' ['1'] ['/'] part.toList))

/-- With the slashes back in place, every tilde of the token is still followed by a zero. -/
theorem replace_escape (token : List Char) :
    replace '~' ['1'] ['/'] (escape token) = replace '~' [] ['~', '0'] token := by
  induction token using token_induction with
  | nil => rfl
  | tilde rest ih =>
      rw [escape_tilde, Text.replace_pair_of_ne (by decide), Text.replace_cons_of_ne (by decide),
        Text.replace_singleton, ih]
      rfl
  | slash rest ih =>
      rw [escape_slash, Text.replace_pair, Text.replace_cons_of_ne (by decide), ih]
      rfl
  | other c rest htilde hslash ih =>
      rw [escape_cons_of_ne htilde hslash, Text.replace_cons_of_ne htilde,
        Text.replace_cons_of_ne htilde, ih]

/-- Tildes come back from their escapes. -/
theorem replace_replace_tilde (token : List Char) :
    replace '~' ['0'] ['~'] (replace '~' [] ['~', '0'] token) = token := by
  induction token with
  | nil => rfl
  | cons c rest ih =>
      by_cases htilde : c = '~'
      · subst htilde
        rw [Text.replace_singleton]
        exact (Text.replace_pair '~' '0' ['~'] _).trans (congrArg ('~' :: ·) ih)
      · rw [Text.replace_cons_of_ne htilde, Text.replace_cons_of_ne htilde, ih]

/-- **Escaping is undone by replacing** what was put in, last thing first. -/
theorem unescaped_escape (token : String) :
    unescaped (String.ofList (escape token.toList)) = token := by
  rw [unescaped, String.toList_ofList, replace_escape, replace_replace_tilde, String.ofList_toList]

/-! ## Pointers -/

/-- The tokens of a pointer: what stands between the slashes behind the first one, unescaped. -/
def tokensOf (pointer : String) : List String :=
  match pointer.toList with
  | '/' :: rest => (Text.parts '/' (String.ofList rest)).map unescaped
  | _ => []

/-- A pointer is made of its escaped tokens, each behind a slash. -/
theorem encode_eq_join (tokens : List String) :
    encode tokens = String.join (tokens.map fun token => "/" ++ escaped token) := by
  induction tokens with
  | nil => rfl
  | cons token rest ih =>
      have hfirst : encode [token] = "/" ++ escaped token := by
        rw [escaped, ← escape_eq_replace, ← String.toList_inj, toList_encode, String.toList_append,
          String.toList_ofList, String.toList_ofList]
        exact List.append_nil _
      rw [List.map_cons, String.join_cons, ← ih, ← hfirst]
      exact (child_append_encode "" token rest).symm.trans (congrArg (· ++ _) String.empty_append)

/-- **A pointer gives back its tokens**, of whatever characters they are made. -/
theorem tokensOf_encode (tokens : List String) : tokensOf (encode tokens) = tokens := by
  cases tokens with
  | nil => rfl
  | cons token rest =>
      let first := escape token.toList
      have hpointer : (encode (token :: rest)).toList =
          '/' :: (first ++ encodeChars (rest.map String.toList)) := by
        rw [toList_encode, List.map_cons, encodeChars, List.flatMap_cons, List.cons_append,
          encodeChars]
      have hparts : Text.splitAt '/' (first ++ encodeChars (rest.map String.toList)) =
          (token :: rest).map fun token => escape token.toList := by
        rw [splitAt_encodeChars first (escape_no_slash _), List.map_cons, List.map_map]
        rfl
      have hback : (unescaped ∘ String.ofList) ∘ (fun token : String => escape token.toList) = id :=
        funext unescaped_escape
      simp only [tokensOf, hpointer]
      rw [Text.parts, String.toList_ofList, hparts, List.map_map, List.map_map, hback, List.map_id]

/-- **A pointer that grows by one token at a time** is the pointer of the row. -/
theorem foldl_child (tokens : List String) (pointer : String) :
    tokens.foldl child pointer = pointer ++ encode tokens := by
  induction tokens generalizing pointer with
  | nil => exact (append_encode_nil pointer).symm
  | cons token rest ih => rw [List.foldl_cons, ih, child_append_encode]

/-- A way of making texts out of rows of tokens that can be undone: nothing stands for the root, the
tokens can be read back, different rows have different texts, and without its last part a text is
that of the row without its last token. -/
structure IsDecodable (point : List String → String) : Prop where
  root : point [] = ""
  tokensOf_point : ∀ tokens, tokensOf (point tokens) = tokens
  point_inj : ∀ tokens tokens', point tokens = point tokens' ↔ tokens = tokens'
  dropLast_point : ∀ tokens token, dropLast (point (tokens ++ [token])) = point tokens

theorem isDecodable_encode : IsDecodable encode where
  root := rfl
  tokensOf_point := tokensOf_encode
  point_inj _ _ := encode_injective.eq_iff
  dropLast_point := dropLast_encode

end Pointer

/-! ## The entries of a source map -/

namespace Yaml.Node

variable {root : Node}

/-- **A source map has one entry for each row that leads to an element** of the document. -/
theorem existsUnique_entry {way : List String} {m : Node} {mark : Mark} (hat : root.At way m)
    (hmark : m.mark? = some mark) : ∃! e, e ∈ root.sourceMap ∧ e.1 = Pointer.encode way := by
  obtain ⟨mark', hlookup⟩ := exists_lookup_of_at hat hmark
  have hmem := SourceMap.mem_of_lookup hlookup
  refine ⟨_, ⟨hmem, rfl⟩, ?_⟩
  rintro ⟨pointer, place⟩ ⟨he, rfl⟩
  have hplace := (Table.lookup_eq_some_iff_mem (SourceMap.nodup_ofList (root.places ""))).mpr he
  exact Prod.ext rfl (Option.some.inj (hplace.symm.trans hlookup))

end Yaml.Node

/-! ## All pointers -/

/-- **Pointers can be taken apart, whoever makes them.**  The pointer of a row of tokens is made of
the tokens behind slashes, in which tildes and then slashes have been replaced; it is decodable.  So
are the pointers of the issues of a document, and the pointers that grow token by token on the way
through a tree; the pointers of defects are made of tokens too.  In the source map of a tree there
is one entry for each row that leads to a node with a mark, and each entry belongs to one such row. -/
theorem pointers_are_uniquely_decodable :
    (∀ tokens, Pointer.encode tokens =
      String.join (tokens.map fun token => "/" ++ Pointer.escaped token)) ∧
    Pointer.IsDecodable Pointer.encode ∧
    (∀ message, Pointer.IsDecodable fun path => Schema.Issue.pointer ⟨path, message⟩) ∧
    Pointer.IsDecodable (fun way => way.foldl Pointer.child "") ∧
    (∀ d : Defect, ∃ tokens, d.pointer = Pointer.encode tokens) ∧
    ∀ root : Yaml.Node,
      (∀ way m mark, root.At way m → m.mark? = some mark →
        ∃! e, e ∈ root.sourceMap ∧ e.1 = way.foldl Pointer.child "") ∧
      ∀ e ∈ root.sourceMap, ∃! way, e.1 = way.foldl Pointer.child "" ∧
        ∃ m mark, root.At way m ∧ m.mark? = some mark ∧ e.2 = Yaml.Node.placeOf mark := by
  have hgrown : (fun way => way.foldl Pointer.child "") = Pointer.encode := by
    funext way
    rw [Pointer.foldl_child, String.empty_append]
  refine ⟨Pointer.encode_eq_join, Pointer.isDecodable_encode, fun _ => Pointer.isDecodable_encode,
    hgrown ▸ Pointer.isDecodable_encode, SpecFile.exists_tokens_of_defect, fun root => ?_⟩
  have hgrow : ∀ way : List String, way.foldl Pointer.child "" = Pointer.encode way :=
    congrFun hgrown
  simp only [hgrow]
  refine ⟨fun way m mark hat hmark => Yaml.Node.existsUnique_entry hat hmark, fun e he => ?_⟩
  obtain ⟨way, m, mark, hat, hmark, rfl⟩ := Yaml.Node.exists_at_of_mem_sourceMap he
  exact ⟨way, ⟨rfl, m, mark, hat, hmark, rfl⟩,
    fun way' hway' => (Pointer.encode_injective hway'.1).symm⟩

/-- A tree in which one way leads through the key `a/b` and another through `a` and `b`. -/
def slashTree : Yaml.Node :=
  let leaf (text : String) : Yaml.Node := .scalar .str text .origin
  .mapping .map [(leaf "a/b", leaf "1"), (leaf "a", .mapping .map [(leaf "b", leaf "2")] .origin)]
    .origin

/-- The two ways have entries of their own. -/
theorem slashTree_has_two_entries :
    slashTree.At ["a/b"] (.scalar .str "1" .origin) ∧
      slashTree.At ["a", "b"] (.scalar .str "2" .origin) ∧
      (∃! e, e ∈ slashTree.sourceMap ∧ e.1 = "/a~1b") ∧
      (∃! e, e ∈ slashTree.sourceMap ∧ e.1 = "/a/b") ∧
      Pointer.tokensOf "/a~1b" = ["a/b"] ∧ Pointer.tokensOf "/a/b" = ["a", "b"] := by
  obtain ⟨-, hdecodable, -, -, -, htree⟩ := pointers_are_uniquely_decodable
  have hone : slashTree.At ["a/b"] (.scalar .str "1" .origin) := .entry List.mem_cons_self .here
  have htwo : slashTree.At ["a", "b"] (.scalar .str "2" .origin) :=
    .entry (List.mem_cons_of_mem _ List.mem_cons_self) (.entry List.mem_cons_self .here)
  exact ⟨hone, htwo, (htree slashTree).1 _ _ _ hone rfl, (htree slashTree).1 _ _ _ htwo rfl,
    hdecodable.tokensOf_point ["a/b"], hdecodable.tokensOf_point ["a", "b"]⟩

end BuildSpec
