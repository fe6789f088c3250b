import BuildSpec.Yaml.Graph
import BuildSpec.Yaml.Token.Lexer

/-!
# From tokens to a graph

The grammar of a stream of tokens, by recursive descent.  A stream holds one document at most.  A
node may have an anchor and a tag in any order; what is missing, be it a key, a value or an item,
is a null.  An alias refers to the node whose anchor it names, which must come before it; anchors
are named once.

If the tokens break off, the fault that broke them off counts where the missing token is needed.
-/

namespace BuildSpec.Yaml

/-- What is known between two tokens. -/
structure Reading where
  /-- The tokens to come, and why there are no more if the stream has not ended. -/
  tokens : List Token
  fault : Option Fault
  /-- What each tag handle stands for. -/
  handles : List (String × String)
  /-- The numbers of the nodes with anchors. -/
  anchors : List (String × Nat)
  cells : Array Cell

/-- A step of the grammar. -/
abbrev Read := StateT Reading (Except Fault)

namespace Read

/-- The next token. -/
def peek : Read Token := do
  let s ← get
  match s.tokens with
  | t :: _ => return t
  | [] => throw (s.fault.getD .malformed)

/-- Reads the next token. -/
def next : Read Token := do
  let t ← peek
  modify fun s => { s with tokens := s.tokens.tail }
  return t

/-- Reads the next token if it is of a kind. -/
def accept (kind : TokenKind) : Read Bool := do
  if (← peek).kind = kind then
    let _ ← next
    return true
  else return false

/-- Reads a token, which must be of a kind. -/
def expect (kind : TokenKind) : Read Token := do
  if (← peek).kind = kind then next else throw .malformed

/-- Adds a node and returns its number. -/
def add (c : Cell) : Read Nat := do
  let i := (← get).cells.size
  modify fun s => { s with cells := s.cells.push c }
  return i

/-- Adds a node that is not written. -/
def missing (mark : Mark) : Read Nat := add (.scalar .null "" mark)

/-- A tag that is written out, with its handle replaced; `!` asks for the tag that the text
implies. -/
def resolveTag (handle : Option String) (suffix : String) : Read String := do
  match handle with
  | none => return suffix
  | some h =>
    match (← get).handles.lookup h with
    | some lead => return lead ++ suffix
    | none => throw .malformed

/-- Binds an anchor to a node. -/
def bind (anchor : Option String) (i : Nat) : Read Unit :=
  match anchor with
  | none => return ()
  | some name => modify fun s => { s with anchors := (name, i) :: s.anchors }

/-- An anchor in front of a node. -/
def anchor? : Read (Option String) := do
  match (← peek).kind with
  | .anchor name =>
    let _ ← next
    return some name
  | _ => return none

/-- A tag in front of a node, as it is written. -/
def tag? : Read (Option (Option String × String)) := do
  match (← peek).kind with
  | .tag handle suffix =>
    let _ ← next
    return some (handle, suffix)
  | _ => return none

/-- The anchor and the tag in front of a node. -/
def properties : Read (Option String × Option String) := do
  let first ← anchor?
  let tag ← tag?
  let anchor ← if first.isNone && tag.isSome then anchor? else pure first
  match tag with
  | none => return (anchor, none)
  | some (handle, suffix) => return (anchor, some (← resolveTag handle suffix))

/-- The tag of a collection. -/
def collectionTag (tag : Option String) (implied : Tag) : Tag :=
  match tag with
  | none | some "!" => implied
  | some uri => .ofUri uri

/-- The tag of a scalar. -/
def scalarTag (tag : Option String) (text : String) (isPlain : Bool) : Tag :=
  match tag with
  | none => if isPlain then impliedTag text else .str
  | some "!" => impliedTag text
  | some uri => .ofUri uri

/-- An anchor may name one node only. -/
def checkAnchor (anchor : Option String) : Read Unit := do
  match anchor with
  | none => return ()
  | some name => if ((← get).anchors.lookup name).isSome then throw .malformed

/-- Adds a collection of which the parts are still to be read, then reads them; a part may refer
to the collection. -/
def collection (anchor : Option String) (empty : Cell) (parts : Read Cell) : Read Nat := do
  checkAnchor anchor
  let i ← add empty
  bind anchor i
  let cell ← parts
  modify fun s => { s with cells := s.cells.setIfInBounds i cell }
  return i

/-- Where a node stands: only in a block may there be block collections, and a sequence without an
indentation of its own only as a key or value of a block mapping. -/
structure Place where
  isBlock : Bool
  isEntry : Bool

/-- Inside brackets. -/
def Place.flow : Place := ⟨false, false⟩

/-- An item of a block sequence, or a whole document. -/
def Place.item : Place := ⟨true, false⟩

/-- A key or a value of a block mapping. -/
def Place.entry : Place := ⟨true, true⟩

/-- Whether the next token is one of the given kinds. -/
def atAny (kinds : List TokenKind) : Read Bool := return kinds.contains (← peek).kind

mutual

/-- A node. -/
def node : Nat → Place → Read Nat
  | 0, _ => throw .malformed
  | n + 1, place => do
    let first ← peek
    match first.kind with
    | .alias name =>
      let _ ← next
      match (← get).anchors.lookup name with
      | some i => return i
      | none => throw .malformed
    | _ =>
      let (anchor, tag) ← properties
      let mark := first.start
      let sequence (items : Read (List Nat)) : Read Nat := do
        let tag := collectionTag tag .seq
        collection anchor (.sequence tag [] mark) ((.sequence tag · mark) <$> items)
      let mapping (entries : Read (List (Nat × Nat))) : Read Nat := do
        let tag := collectionTag tag .map
        collection anchor (.mapping tag [] mark) ((.mapping tag · mark) <$> entries)
      let scalar (text : String) (isPlain : Bool) : Read Nat := do
        checkAnchor anchor
        let i ← add (.scalar (scalarTag tag text isPlain) text mark)
        bind anchor i
        return i
      match (← peek).kind with
      | .blockEntry =>
        if place.isEntry then sequence (bareItems n)
        else if anchor.isSome || tag.isSome then scalar "" true
        else throw .malformed
      | .scalar text isPlain =>
        let _ ← next
        scalar text isPlain
      | .flowSequenceStart => sequence do
        let _ ← next
        flowItems n true
      | .flowMappingStart => mapping do
        let _ ← next
        flowEntries n true
      | kind =>
        if place.isBlock && kind = .blockSequenceStart then sequence do
          let _ ← next
          blockItems n
        else if place.isBlock && kind = .blockMappingStart then mapping do
          let _ ← next
          blockEntries n
        else if anchor.isSome || tag.isSome then scalar "" true
        else throw .malformed

/-- A node, or a null in front of a token of certain kinds. -/
def nodeUnless : Nat → Place → List TokenKind → Mark → Read Nat
  | 0, _, _, _ => throw .malformed
  | n + 1, place, kinds, mark => do
    if ← atAny kinds then missing mark else node n place

/-- The items of a block sequence. -/
def blockItems : Nat → Read (List Nat)
  | 0 => throw .malformed
  | n + 1 => do
    let t ← peek
    if ← accept .blockEntry then
      let item ← nodeUnless n .item [.blockEntry, .blockEnd] t.stop
      return item :: (← blockItems n)
    else
      let _ ← expect .blockEnd
      return []

/-- The items of a sequence without an indentation of its own. -/
def bareItems : Nat → Read (List Nat)
  | 0 => throw .malformed
  | n + 1 => do
    let t ← peek
    if ← accept .blockEntry then
      let item ← nodeUnless n .item [.blockEntry, .key, .value, .blockEnd] t.stop
      return item :: (← bareItems n)
    else return []

/-- The entries of a block mapping. -/
def blockEntries : Nat → Read (List (Nat × Nat))
  | 0 => throw .malformed
  | n + 1 => do
    let t ← peek
    if ← accept .key then
      let key ← nodeUnless n .entry [.key, .value, .blockEnd] t.stop
      let v ← peek
      let value ←
        if ← accept .value then nodeUnless n .entry [.key, .value, .blockEnd] v.stop
        else missing v.start
      return (key, value) :: (← blockEntries n)
    else
      let _ ← expect .blockEnd
      return []

/-- The items of a sequence in brackets; an item with a key is a mapping with one entry. -/
def flowItems : Nat → (first : Bool) → Read (List Nat)
  | 0, _ => throw .malformed
  | n + 1, first => do
    if ← accept .flowSequenceEnd then return []
    if !first then
      let _ ← expect .flowEntry
    let t ← peek
    if t.kind = .key then
      let item ← collection none (.mapping .map [] t.start) do
        let _ ← next
        let key ← nodeUnless n .flow [.value, .flowEntry, .flowSequenceEnd] t.stop
        let v ← peek
        let value ←
          if ← accept .value then nodeUnless n .flow [.flowEntry, .flowSequenceEnd] v.stop
          else missing v.start
        return .mapping .map [(key, value)] t.start
      return item :: (← flowItems n false)
    else if ← accept .flowSequenceEnd then return []
    else
      let item ← node n .flow
      return item :: (← flowItems n false)

/-- The entries of a mapping in brackets; a node without a colon is a key without a value. -/
def flowEntries : Nat → (first : Bool) → Read (List (Nat × Nat))
  | 0, _ => throw .malformed
  | n + 1, first => do
    if ← accept .flowMappingEnd then return []
    if !first then
      let _ ← expect .flowEntry
    let t ← peek
    if ← accept .key then
      let key ← nodeUnless n .flow [.value, .flowEntry, .flowMappingEnd] t.stop
      let v ← peek
      let value ←
        if ← accept .value then nodeUnless n .flow [.flowEntry, .flowMappingEnd] v.stop
        else missing v.start
      return (key, value) :: (← flowEntries n false)
    else if ← accept .flowMappingEnd then return []
    else
      let key ← node n .flow
      let value ← missing (← peek).start
      return (key, value) :: (← flowEntries n false)

end

/-- The handles that need no directive. -/
def defaultHandles : List (String × String) := [("!", "!"), ("!!", Tag.namespaceUri)]

/-- The directives in front of a document: at most one version, of which the first number is one,
and at most one meaning for each handle. -/
def directives : Nat → (versioned : Bool) → (handles : List (String × String)) →
    Read (List (String × String))
  | 0, _, _ => throw .malformed
  | n + 1, versioned, handles => do
    match (← peek).kind with
    | .directive (.version major _) =>
      if versioned || major ≠ 1 then throw .malformed
      let _ ← next
      directives n true handles
    | .directive (.tagHandle handle lead) =>
      if (handles.lookup handle).isSome then throw .malformed
      let _ ← next
      directives n versioned ((handle, lead) :: handles)
    | .directive .other =>
      let _ ← next
      directives n versioned handles
    | _ => return handles ++ defaultHandles

/-- Reads marks of the end of a document. -/
def documentEnds : Nat → Read Unit
  | 0 => throw .malformed
  | n + 1 => do if ← accept .documentEnd then documentEnds n

/-- Reads what may follow a document: nothing but marks of its end. -/
def trailer (fuel : Nat) : Read Unit := do
  documentEnds fuel
  if !(← accept .streamEnd) then
    let _ ← directives fuel false []
    throw .malformed

/-- A stream: nothing, or one document, the number of whose outermost node is returned. -/
def stream (fuel : Nat) : Read (Option Nat) := do
  match (← peek).kind with
  | .streamEnd => return none
  | .directive _ | .documentStart =>
    let handles ← directives fuel false []
    modify fun s => { s with handles }
    let _ ← expect .documentStart
    let t ← peek
    let root ← match t.kind with
      | .directive _ | .documentStart | .documentEnd | .streamEnd => missing t.start
      | _ => node fuel .item
    trailer fuel
    return some root
  | _ =>
    let root ← node fuel .item
    trailer fuel
    return some root

end Read

/-- The document in a text; none if the text is empty but for comments. -/
def Graph.ofText (text : String) : Except Fault (Option Graph) := do
  let (tokens, fault) := tokenize text
  let fuel := 4 * tokens.length + 16
  let (root, s) ← (Read.stream fuel).run ⟨tokens, fault, Read.defaultHandles, [], #[]⟩
  return root.map fun root => ⟨s.cells, root⟩

end BuildSpec.Yaml
