import BuildSpec.Proofs.Yaml.LexerFaults
import BuildSpec.Yaml.Graph.Grammar

/-!
# The faults of the grammar

A stream of tokens that is no document is malformed, unless its tokens break off; then the fault at
which they break off counts.  No step of the grammar has a fault of its own:

* `Read.StopsAt` — a step that stops at nothing else;
* `Read.stopsAt_nodes` — the nodes are such, by induction on the depth that is left for all kinds of
  them at once;
* `lexical_of_ofText` — so the faults of a text are the faults of its tokens.
-/

namespace BuildSpec.Yaml

namespace Read

variable {α β : Type} {fault : Option Fault}

/-- A step of the grammar that stops only where the document is malformed or where the tokens break
off, and does not change the fault at which they do. -/
def StopsAt (fault : Option Fault) (m : Read α) : Prop :=
  ∀ s : Reading, s.fault = fault →
    Ends (fun e => e = .malformed ∨ fault = some e) (fun r => r.2.fault = fault) (m s)

namespace StopsAt

theorem pure (a : α) : StopsAt fault (Pure.pure a : Read α) := fun _ hs => hs

theorem malformed : StopsAt fault (throw .malformed : Read α) := fun _ _ => .inl rfl

theorem bind {m : Read α} {f : α → Read β} (hm : m.StopsAt fault)
    (hf : ∀ a, (f a).StopsAt fault) : StopsAt fault (m >>= f) :=
  fun s hs => Ends.bind (hm s hs) fun r hr => hf r.1 r.2 hr

/-- The fault is not changed before a step that looks at what is known. -/
theorem get_bind {f : Reading → Read α}
    (hf : ∀ s : Reading, s.fault = fault →
      Ends (fun e => e = .malformed ∨ fault = some e) (fun r => r.2.fault = fault) (f s s)) :
    StopsAt fault (get >>= f) :=
  fun s hs => hf s hs

theorem map {m : Read α} (f : α → β) (hm : m.StopsAt fault) : StopsAt fault (f <$> m) := by
  rw [map_eq_pure_bind]
  exact hm.bind fun a => pure (f a)

theorem ite {c : Prop} [Decidable c] {m m' : Read α} (hm : m.StopsAt fault)
    (hm' : m'.StopsAt fault) : StopsAt fault (if c then m else m') := by
  split
  · exact hm
  · exact hm'

end StopsAt

theorem stopsAt_get : StopsAt fault (get : Read Reading) := fun _ hs => hs

theorem stopsAt_modify {f : Reading → Reading} (hf : ∀ s, (f s).fault = s.fault) :
    StopsAt fault (modify f : Read PUnit) :=
  fun s hs => (hf s).trans hs

/-! ## Tokens -/

theorem stopsAt_peek : StopsAt fault peek := by
  refine StopsAt.get_bind fun s hs => ?_
  cases s.tokens with
  | cons t rest => exact hs
  | nil =>
      subst hs
      cases s.fault with
      | none => exact .inl rfl
      | some e => exact .inr rfl

theorem stopsAt_next : StopsAt fault next :=
  stopsAt_peek.bind fun t => (stopsAt_modify fun _ => by rfl).bind fun _ => .pure t

theorem stopsAt_accept (kind : TokenKind) : StopsAt fault (accept kind) :=
  stopsAt_peek.bind fun _ => .ite (stopsAt_next.bind fun _ => .pure true) (.pure false)

theorem stopsAt_expect (kind : TokenKind) : StopsAt fault (expect kind) :=
  stopsAt_peek.bind fun _ => .ite stopsAt_next .malformed

theorem stopsAt_atAny (kinds : List TokenKind) : StopsAt fault (atAny kinds) :=
  stopsAt_peek.bind fun _ => .pure _

/-! ## What stands in front of a node, and the nodes themselves -/

theorem stopsAt_add (c : Cell) : StopsAt fault (add c) :=
  stopsAt_get.bind fun _ => (stopsAt_modify fun _ => by rfl).bind fun _ => .pure _

theorem stopsAt_resolveTag (handle : Option String) (suffix : String) :
    StopsAt fault (resolveTag handle suffix) := by
  unfold resolveTag
  split
  · exact .pure _
  · refine stopsAt_get.bind fun s => ?_
    split
    · exact .pure _
    · exact .malformed

theorem stopsAt_bind (anchor : Option String) (i : Nat) : StopsAt fault (Read.bind anchor i) := by
  unfold Read.bind
  split
  · exact .pure ()
  · exact stopsAt_modify fun _ => by rfl

theorem stopsAt_anchor? : StopsAt fault anchor? := by
  refine stopsAt_peek.bind fun t => ?_
  split
  · exact stopsAt_next.bind fun _ => .pure _
  · exact .pure none

theorem stopsAt_tag? : StopsAt fault tag? := by
  refine stopsAt_peek.bind fun t => ?_
  split
  · exact stopsAt_next.bind fun _ => .pure _
  · exact .pure none

theorem stopsAt_properties : StopsAt fault properties := by
  refine stopsAt_anchor?.bind fun first => stopsAt_tag?.bind fun tag => ?_
  extract_lets result
  have hresult : ∀ anchor, StopsAt fault (result anchor) := by
    intro anchor
    unfold result
    split
    · exact .pure _
    · exact (stopsAt_resolveTag _ _).bind fun _ => .pure _
  exact .ite (stopsAt_anchor?.bind hresult) ((StopsAt.pure first).bind hresult)

theorem stopsAt_checkAnchor (anchor : Option String) : StopsAt fault (checkAnchor anchor) := by
  unfold checkAnchor
  split
  · exact .pure ()
  · exact stopsAt_get.bind fun _ => .ite .malformed (.pure ())

theorem stopsAt_collection (anchor : Option String) (empty : Cell) {parts : Read Cell}
    (h : parts.StopsAt fault) : StopsAt fault (collection anchor empty parts) :=
  (stopsAt_checkAnchor anchor).bind fun _ => (stopsAt_add empty).bind fun i =>
    (stopsAt_bind anchor i).bind fun _ => h.bind fun _ =>
      (stopsAt_modify fun _ => by rfl).bind fun _ => .pure i

/-- All kinds of nodes with some depth left. -/
structure NodesStopAt (fault : Option Fault) (n : Nat) : Prop where
  node : ∀ place, (node n place).StopsAt fault
  nodeUnless : ∀ place kinds mark, (nodeUnless n place kinds mark).StopsAt fault
  blockItems : (blockItems n).StopsAt fault
  bareItems : (bareItems n).StopsAt fault
  blockEntries : (blockEntries n).StopsAt fault
  flowItems : ∀ first, (flowItems n first).StopsAt fault
  flowEntries : ∀ first, (flowEntries n first).StopsAt fault

namespace NodesStopAt

variable {n : Nat} (h : NodesStopAt fault n)

include h

theorem node_succ (place : Place) : (Read.node (n + 1) place).StopsAt fault := by
  unfold Read.node
  refine stopsAt_peek.bind fun first => ?_
  split
  · refine stopsAt_next.bind fun _ => stopsAt_get.bind fun s => ?_
    split
    · exact .pure _
    · exact .malformed
  · refine stopsAt_properties.bind fun found => ?_
    obtain ⟨anchor, tag⟩ := found
    dsimp -zeta only
    extract_lets mark sequenceTag sequence mappingTag mapping scalar
    have hsequence : ∀ items, StopsAt fault items → StopsAt fault (sequence items) :=
      fun items hitems => stopsAt_collection _ _ (hitems.map _)
    have hmapping : ∀ entries, StopsAt fault entries → StopsAt fault (mapping entries) :=
      fun entries hentries => stopsAt_collection _ _ (hentries.map _)
    have hscalar : ∀ text isPlain, StopsAt fault (scalar text isPlain) :=
      fun text isPlain => (stopsAt_checkAnchor _).bind fun _ => (stopsAt_add _).bind fun i =>
        (stopsAt_bind _ _).bind fun _ => .pure i
    have hmissing : StopsAt fault
        (if anchor.isSome || tag.isSome then scalar "" true else throw .malformed) :=
      .ite (hscalar "" true) .malformed
    refine stopsAt_peek.bind fun t => ?_
    split
    · exact .ite (hsequence _ h.bareItems) hmissing
    · exact stopsAt_next.bind fun _ => hscalar _ _
    · exact hsequence _ (stopsAt_next.bind fun _ => h.flowItems true)
    · exact hmapping _ (stopsAt_next.bind fun _ => h.flowEntries true)
    · refine .ite (hsequence _ (stopsAt_next.bind fun _ => h.blockItems)) ?_
      exact .ite (hmapping _ (stopsAt_next.bind fun _ => h.blockEntries)) hmissing

theorem nodeUnless_succ (place : Place) (kinds : List TokenKind) (mark : Mark) :
    (Read.nodeUnless (n + 1) place kinds mark).StopsAt fault := by
  unfold Read.nodeUnless
  exact (stopsAt_atAny kinds).bind fun _ => .ite (stopsAt_add _) (h.node place)

/-- What stands behind a colon, if there is one, and what comes after it. -/
theorem value_bind (place : Place) (kinds : List TokenKind) (v : Token) {f : Nat → Read β}
    (hf : ∀ i, (f i).StopsAt fault) :
    StopsAt fault (do
      if ← accept .value then Read.nodeUnless n place kinds v.stop >>= f
      else missing v.start >>= f) :=
  (stopsAt_accept _).bind fun _ =>
    .ite ((h.nodeUnless _ _ _).bind hf) ((stopsAt_add _).bind hf)

theorem blockItems_succ : (Read.blockItems (n + 1)).StopsAt fault := by
  unfold Read.blockItems
  refine stopsAt_peek.bind fun t => (stopsAt_accept _).bind fun _ => .ite ?_ ?_
  · exact (h.nodeUnless _ _ _).bind fun _ => h.blockItems.bind fun _ => .pure _
  · exact (stopsAt_expect _).bind fun _ => .pure []

theorem bareItems_succ : (Read.bareItems (n + 1)).StopsAt fault := by
  unfold Read.bareItems
  refine stopsAt_peek.bind fun t => (stopsAt_accept _).bind fun _ => .ite ?_ (.pure [])
  exact (h.nodeUnless _ _ _).bind fun _ => h.bareItems.bind fun _ => .pure _

theorem blockEntries_succ : (Read.blockEntries (n + 1)).StopsAt fault := by
  unfold Read.blockEntries
  refine stopsAt_peek.bind fun t => (stopsAt_accept _).bind fun _ => .ite ?_ ?_
  · refine (h.nodeUnless _ _ _).bind fun key => stopsAt_peek.bind fun v => ?_
    exact h.value_bind _ _ v fun value => h.blockEntries.bind fun _ => .pure _
  · exact (stopsAt_expect _).bind fun _ => .pure []

theorem flowItems_succ (first : Bool) : (Read.flowItems (n + 1) first).StopsAt fault := by
  unfold Read.flowItems
  refine (stopsAt_accept _).bind fun _ => .ite (.pure []) ?_
  extract_lets item
  have hitem : StopsAt fault (item ()) := by
    refine stopsAt_peek.bind fun t => .ite ?_ ((stopsAt_accept _).bind fun _ => .ite (.pure []) ?_)
    · refine StopsAt.bind (stopsAt_collection _ _ ?_) fun _ => (h.flowItems _).bind fun _ => .pure _
      refine stopsAt_next.bind fun _ => (h.nodeUnless _ _ _).bind fun key => ?_
      exact stopsAt_peek.bind fun v => h.value_bind _ _ v fun value => .pure _
    · exact (h.node _).bind fun _ => (h.flowItems _).bind fun _ => .pure _
  exact .ite ((stopsAt_expect _).bind fun _ => hitem) hitem

theorem flowEntries_succ (first : Bool) : (Read.flowEntries (n + 1) first).StopsAt fault := by
  unfold Read.flowEntries
  refine (stopsAt_accept _).bind fun _ => .ite (.pure []) ?_
  extract_lets entry
  have hentry : StopsAt fault (entry ()) := by
    refine stopsAt_peek.bind fun t => (stopsAt_accept _).bind fun _ => .ite ?_ ?_
    · refine (h.nodeUnless _ _ _).bind fun key => stopsAt_peek.bind fun v => ?_
      exact h.value_bind _ _ v fun value => (h.flowEntries _).bind fun _ => .pure _
    · refine (stopsAt_accept _).bind fun _ => .ite (.pure []) ?_
      refine (h.node _).bind fun key => stopsAt_peek.bind fun v => ?_
      exact (stopsAt_add _).bind fun _ => (h.flowEntries _).bind fun _ => .pure _
  exact .ite ((stopsAt_expect _).bind fun _ => hentry) hentry

end NodesStopAt

/-- The nodes refer to each other, always with less depth left. -/
theorem stopsAt_nodes (fault : Option Fault) (n : Nat) : NodesStopAt fault n := by
  induction n with
  | zero =>
      exact ⟨fun _ => .malformed, fun _ _ _ => .malformed, .malformed, .malformed, .malformed,
        fun _ => .malformed, fun _ => .malformed⟩
  | succ n ih =>
      exact ⟨ih.node_succ, ih.nodeUnless_succ, ih.blockItems_succ, ih.bareItems_succ,
        ih.blockEntries_succ, ih.flowItems_succ, ih.flowEntries_succ⟩

/-! ## Documents -/

theorem stopsAt_directives (n : Nat) (versioned : Bool) (handles : List (String × String)) :
    StopsAt fault (directives n versioned handles) := by
  induction n generalizing versioned handles with
  | zero => exact .malformed
  | succ n ih =>
      have hrest : ∀ versioned handles, StopsAt fault (do
          let _ ← next
          directives n versioned handles) :=
        fun versioned handles => stopsAt_next.bind fun _ => ih versioned handles
      unfold directives
      refine stopsAt_peek.bind fun t => ?_
      split
      · exact .ite (.bind .malformed fun _ => hrest _ _) (hrest _ _)
      · exact .ite (.bind .malformed fun _ => hrest _ _) (hrest _ _)
      · exact hrest _ _
      · exact .pure _

theorem stopsAt_documentEnds (n : Nat) : StopsAt fault (documentEnds n) := by
  induction n with
  | zero => exact .malformed
  | succ n ih => exact (stopsAt_accept _).bind fun _ => .ite ih (.pure ())

theorem stopsAt_trailer (n : Nat) : StopsAt fault (trailer n) := by
  refine (stopsAt_documentEnds n).bind fun _ => (stopsAt_accept _).bind fun _ => .ite ?_ (.pure ())
  exact (stopsAt_directives _ _ _).bind fun _ => .malformed

theorem stopsAt_stream (n : Nat) : StopsAt fault (stream n) := by
  have hrest : ∀ {m : Read Nat}, m.StopsAt fault → StopsAt fault (do
      let root ← m
      trailer n
      return some root) :=
    fun hm => hm.bind fun root => (stopsAt_trailer n).bind fun _ => .pure (some root)
  have hnode : ∀ place, StopsAt fault (node n place) := (stopsAt_nodes fault n).node
  unfold stream
  refine stopsAt_peek.bind fun t => ?_
  split
  case h_1 => exact .pure none
  case h_2 | h_3 =>
    refine (stopsAt_directives _ _ _).bind fun handles => ?_
    refine (stopsAt_modify fun _ => by rfl).bind fun _ => (stopsAt_expect _).bind fun _ => ?_
    refine stopsAt_peek.bind fun t => ?_
    dsimp only
    split
    case h_5 => exact hrest (hnode _)
    all_goals exact hrest (stopsAt_add _)
  case h_4 => exact hrest (hnode _)

end Read

/-- What is wrong with a text is wrong with its tokens. -/
theorem lexical_of_ofText {text : String} {fault : Fault}
    (h : Graph.ofText text = .error fault) : fault.Lexical := by
  unfold Graph.ofText at h
  rcases bind_eq_error h with hstream | ⟨_, -, hnone⟩
  · rcases (Read.stopsAt_stream _ _ rfl).faults fault hstream with rfl | hbroken
    · exact .malformed
    · exact lexical_of_tokenize hbroken
  · cases hnone

end BuildSpec.Yaml
