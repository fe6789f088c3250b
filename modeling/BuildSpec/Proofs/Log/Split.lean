import BuildSpec.Log.Session
import BuildSpec.Proofs.Log.Levels

/-!
# One stream for each record

A log that has been set up has two handlers, which are told in different ways what to take: both
have a least level, and one has a greatest level besides.  They leave nothing between them and
nothing to both: from the least level of all on, a record that reaches the level of the root is
written once, and the threshold alone decides to which stream.

However often the log is set up in a session, the last time counts.  Settings that change later do
not matter, nor does anything that earlier times have left.

* `takes_iff`, `takes_ofStream_iff` — which stream takes a record, and which handler;
* `writers_way_split` — so one handler at most writes it, whatever logger it is given to;
* `setUp_routing`, `added_eq_written` — a log that is set up does what the routing of a run says;
* `root_run`, `written_run` — what is left as it is until the log is set up again, and what is
  written meanwhile;
* `last_setUp_decides` — where records go after the log has been set up.
-/

namespace BuildSpec.Log

/-- The stream for records of a level in a log that is split at a level. -/
def Stream.ofLevel (threshold level : Int) : Stream := if threshold ≤ level then .error else .output

theorem Stream.error_eq_ofLevel_iff {threshold level : Int} :
    error = ofLevel threshold level ↔ threshold ≤ level := by
  unfold ofLevel
  split <;> simp <;> omega

theorem Stream.output_eq_ofLevel_iff {threshold level : Int} :
    output = ofLevel threshold level ↔ level < threshold := by
  unfold ofLevel
  split <;> simp <;> omega

/-! ## Two handlers -/

variable {least threshold level : Int} {stream : Stream}

/-- **Of the two streams one takes a record**, unless its level is below the least level of all. -/
theorem Routing.takes_iff {r : Routing} (h : floor ≤ r.threshold) :
    r.takes stream level = true ↔ floor ≤ level ∧ stream = .ofLevel r.threshold level := by
  cases stream with
  | output =>
      rw [Stream.output_eq_ofLevel_iff, takes, Bool.and_eq_true, decide_eq_true_iff,
        decide_eq_true_iff]
      omega
  | error =>
      rw [Stream.error_eq_ofLevel_iff, takes, decide_eq_true_iff]
      omega

namespace Handler

@[simp]
theorem stream_ofStream : (ofStream threshold stream).stream = stream := by
  cases stream <;> rfl

@[simp]
theorem layout_ofStream : (ofStream threshold stream).layout = .named := by
  cases stream <;> rfl

/-- The handlers take what the routing of a run lets through. -/
theorem takes_ofStream (r : Routing) :
    (ofStream r.threshold stream).takes level = r.takes stream level := by
  cases stream with
  | output => rfl
  | error => exact Bool.and_true _

/-- So of the two handlers one takes it. -/
theorem takes_ofStream_iff (h : Routing.floor ≤ threshold) :
    (ofStream threshold stream).takes level = true ↔
      Routing.floor ≤ level ∧ stream = .ofLevel threshold level := by
  rw [takes_ofStream ⟨0, threshold⟩]
  exact Routing.takes_iff h

end Handler

/-! ## The way to the root -/

namespace Logger

theorem filter_split (h : Routing.floor ≤ threshold) :
    (split threshold).filter (·.takes level) =
      if Routing.floor ≤ level then [.ofStream threshold (.ofLevel threshold level)] else [] := by
  simp only [split, List.filter_cons, List.filter_nil, Handler.takes_ofStream_iff h]
  by_cases hfloor : Routing.floor ≤ level
  · cases Stream.ofLevel threshold level <;> simp [hfloor]
  · simp [hfloor]

/-- Loggers that set no level leave the decision to the root. -/
theorem leastOn_way (root : Logger) (depth : Nat) : leastOn (root.way depth) = root.level := by
  induction depth with
  | zero =>
      change (if root.level = 0 then 0 else root.level) = root.level
      split
      · next hzero => exact hzero.symm
      · rfl
  | succ depth ih => exact ih

/-- Loggers without handlers leave the records to the handlers of the root. -/
theorem flatMap_handlers_way (root : Logger) (depth : Nat) :
    (root.way depth).flatMap handlers = root.handlers := by
  induction depth with
  | zero => exact List.flatMap_singleton _ _
  | succ depth ih => exact ih

theorem handlersOn_way_split (depth : Nat) :
    handlersOn (way ⟨least, split threshold⟩ depth) = split threshold := by
  rw [handlersOn, flatMap_handlers_way]
  rfl

/-- **A record is written by one handler at most**, and which one that is does not depend on the
logger that it is given to. -/
theorem writers_way_split (h : Routing.floor ≤ threshold) (depth : Nat) :
    writers (way ⟨least, split threshold⟩ depth) level =
      if least ≤ level ∧ Routing.floor ≤ level then
        [.ofStream threshold (.ofLevel threshold level)]
      else [] := by
  have hfloor : Routing.floor = 10 := rfl
  rw [writers, leastOn_way, handlersOn_way_split, filter_split h]
  by_cases hleast : least ≤ level <;> by_cases hlevel : Routing.floor ≤ level
  · have hpos : 0 < level := by omega
    simp [hleast, hlevel, hpos]
  · simp [hlevel]
  · simp [hleast]
  · simp [hleast]

/-! ## Setting up the log -/

/-- **A log that is set up is split as the routing of a run says**, and the same words are faults. -/
theorem setUp_routing (root : Logger) (s : RunSettings) :
    match s.routing with
    | .ok r =>
        root.setUp (.ofString s.logLevel) (.ofString s.printLevel) =
          (⟨r.root, split r.threshold⟩, none)
    | .error fault =>
        (root.setUp (.ofString s.logLevel) (.ofString s.printLevel)).2 = some fault := by
  unfold RunSettings.routing
  cases LevelWord.ofString s.printLevel with
  | level print => cases LevelWord.ofString s.logLevel <;> rfl
  | layout => rfl
  | layouts => rfl

end Logger

/-! ## What is written -/

theorem Routing.written_append (r : Routing) (stream : Stream) (records rest : List Record) :
    r.written stream (records ++ rest) = r.written stream records ++ r.written stream rest := by
  rw [written, List.filter_append, List.map_append, String.join_append]
  rfl

/-- A record is written to its own stream if it reaches the level of the root, and nowhere else. -/
theorem Routing.written_singleton {r : Routing} (h : floor ≤ r.threshold) (record : Record) :
    r.written stream [record] =
      if (r.root ≤ record.level ∧ floor ≤ record.level) ∧
          stream = .ofLevel r.threshold record.level then
        line record
      else "" := by
  have hkeeps : (r.keeps record.level && r.takes stream record.level) = true ↔
      (r.root ≤ record.level ∧ floor ≤ record.level) ∧
        stream = .ofLevel r.threshold record.level := by
    have hfloor : floor = 10 := rfl
    rw [Bool.and_eq_true, takes_iff h, keeps, Bool.and_eq_true, decide_eq_true_iff,
      decide_eq_true_iff, ← and_assoc]
    exact and_congr_left fun _ => by omega
  simp only [written, List.filter_cons, hkeeps]
  split <;> simp

/-! ## A session -/

/-- The log is set up. -/
def Act.IsSetUp : Act → Prop
  | .setUp .. => True
  | _ => False

/-- The record that is given to a logger. -/
def Act.record? : Act → Option Record
  | .note _ record => some record
  | _ => none

namespace Session

variable {s : Session} {r : Routing}

/-- **What is written for a record is what the routing of a run lets through.** -/
theorem added_eq_written (hroot : s.root = ⟨r.root, Logger.split r.threshold⟩)
    (h : Routing.floor ≤ r.threshold) (depth : Nat) (record : Record) :
    s.added depth record stream = r.written stream [record] := by
  rw [Routing.written_singleton h, added, hroot, Logger.writers_way_split h]
  by_cases hlevel : r.root ≤ record.level ∧ Routing.floor ≤ record.level
  · by_cases hstream : stream = .ofLevel r.threshold record.level
    · simp [hlevel, hstream, Layout.line]
    · simp [hlevel, hstream, Ne.symm hstream]
  · simp [hlevel]

theorem root_take (s : Session) {act : Act} (h : ¬ act.IsSetUp) : (s.take act).root = s.root := by
  cases act with
  | assign i settings => rfl
  | setUp i logLevel => exact absurd trivial h
  | note depth record => rfl

theorem root_take_setUp (s : Session) {i : Nat} {logLevel : Option String}
    (h : ((s.settings i).withLogLevel logLevel).routing = .ok r) :
    (s.take (.setUp i logLevel)).root = ⟨r.root, Logger.split r.threshold⟩ := by
  have hsetUp := s.root.setUp_routing ((s.settings i).withLogLevel logLevel)
  rw [h] at hsetUp
  exact congrArg Prod.fst hsetUp

/-- **The log stays as it is until it is set up again.** -/
theorem root_run (s : Session) {acts : List Act} (h : ∀ act ∈ acts, ¬ act.IsSetUp) :
    (s.run acts).root = s.root := by
  induction acts generalizing s with
  | nil => rfl
  | cons act rest ih =>
      obtain ⟨hact, hrest⟩ := List.forall_mem_cons.mp h
      exact (ih (s.take act) hrest).trans (s.root_take hact)

theorem written_take (hroot : s.root = ⟨r.root, Logger.split r.threshold⟩)
    (h : Routing.floor ≤ r.threshold) (act : Act) :
    (s.take act).written stream =
      s.written stream ++ r.written stream act.record?.toList := by
  cases act with
  | assign i settings => exact String.append_empty.symm
  | setUp i logLevel => exact String.append_empty.symm
  | note depth record =>
      exact congrArg (s.written stream ++ ·) (added_eq_written hroot h depth record)

/-- **What a session writes is what the routing of a run lets through**, until the log is set up
again. -/
theorem written_run (hroot : s.root = ⟨r.root, Logger.split r.threshold⟩)
    (h : Routing.floor ≤ r.threshold) {acts : List Act} (hacts : ∀ act ∈ acts, ¬ act.IsSetUp) :
    (s.run acts).written stream =
      s.written stream ++ r.written stream (acts.filterMap Act.record?) := by
  induction acts generalizing s with
  | nil => exact String.append_empty.symm
  | cons act rest ih =>
      obtain ⟨hact, hrest⟩ := List.forall_mem_cons.mp hacts
      have hnow : (s.take act).root = ⟨r.root, Logger.split r.threshold⟩ :=
        (s.root_take hact).trans hroot
      calc (s.run (act :: rest)).written stream
          = ((s.take act).run rest).written stream := rfl
        _ = s.written stream ++ r.written stream act.record?.toList ++
              r.written stream (rest.filterMap Act.record?) := by
            rw [ih hnow hrest, written_take hroot h]
        _ = s.written stream ++ r.written stream ((act :: rest).filterMap Act.record?) := by
            rw [String.append_assoc, ← Routing.written_append, List.filterMap_cons]
            cases act.record? <;> rfl

/-- A session whose log is split at a level, with a level that records must reach. -/
structure SplitsAt (s : Session) (least threshold : Int) : Prop where
  /-- There are the two handlers, and no other ones. -/
  root_eq : s.root = ⟨least, Logger.split threshold⟩
  /-- One handler writes a record that is not too low, and it writes to the stream of its level. -/
  streams_eq : ∀ depth level, debug ≤ level →
    (Logger.writers (s.root.way depth) level).map Handler.stream =
      if least ≤ level then [.ofLevel threshold level] else []
  /-- So the record is added to this stream, and nothing to the other one. -/
  written_note : ∀ depth (record : Record) stream, debug ≤ record.level →
    (s.take (.note depth record)).written stream =
      s.written stream ++
        if least ≤ record.level ∧ stream = .ofLevel threshold record.level then
          Routing.line record
        else ""

theorem splitsAt_of_root (hroot : s.root = ⟨r.root, Logger.split r.threshold⟩)
    (h : Routing.floor ≤ r.threshold) : s.SplitsAt r.root r.threshold where
  root_eq := hroot
  streams_eq depth level hlevel := by
    have hfloor : Routing.floor ≤ level := hlevel
    rw [hroot, Logger.writers_way_split h]
    by_cases hleast : r.root ≤ level
    · simp [hleast, hfloor]
    · simp [hleast]
  written_note depth record stream hlevel := by
    have hfloor : Routing.floor ≤ record.level := hlevel
    rw [written_take hroot h]
    simp only [Act.record?, Option.toList_some, Routing.written_singleton h, hfloor, and_true]

/-- **After the log has been set up, each record goes to one stream**, whatever has been set up
before and whatever else happens later: it is written once if it reaches the log level, to the
standard error from the print level on and to the standard output below it. -/
theorem last_setUp_decides (s : Session) (before later : List Act) (i : Nat)
    (logLevel : Option String) :
    let settings := ((s.run before).settings i).withLogLevel logLevel
    let least := levelOf settings.logLevel
    let threshold := max (levelOf settings.printLevel) debug
    let now := s.run (before ++ .setUp i logLevel :: later)
    IsLevelWord settings.logLevel → IsLevelWord settings.printLevel →
      (∀ act ∈ later, ¬ act.IsSetUp) →
      now.SplitsAt least threshold ∧
        ∀ stream, now.written stream =
          (s.run before).written stream ++
            Routing.written ⟨least, threshold⟩ stream (later.filterMap Act.record?) := by
  intro settings least threshold now hlog hprint hlater
  have hrouting : settings.routing = .ok ⟨least, threshold⟩ :=
    RunSettings.routing_eq (LevelWord.ofString_eq_level hlog) (LevelWord.ofString_eq_level hprint)
  have hfloor : Routing.floor ≤ threshold := Int.le_max_right _ _
  have hsetUp := root_take_setUp (s.run before) hrouting
  have hnow : now = ((s.run before).take (.setUp i logLevel)).run later := by
    change (before ++ .setUp i logLevel :: later).foldl take s = _
    rw [List.foldl_append]
    rfl
  refine ⟨splitsAt_of_root (r := ⟨least, threshold⟩) ?_ hfloor, fun stream => ?_⟩
  · rw [hnow, root_run _ hlater, hsetUp]
  · rw [hnow, written_run hsetUp hfloor hlater]
    rfl

/-- Settings whose print level is an error, and an unknown word for the log level: what comes after
goes by these, and not by the debug level that was set up first. -/
theorem second_setUp_decides :
    let before : List Act :=
      [.setUp 0 (some "debug"), .assign 1 ⟨"INFO", "error", false⟩, .note 2 ⟨"a", 15, "first"⟩]
    let later : List Act :=
      [.note 2 ⟨"a", 25, "dropped"⟩, .assign 1 .standard, .note 1 ⟨"a", 35, "odd"⟩,
        .note 0 ⟨"", 40, "last"⟩]
    IsLevelWord "chatty" ∧ IsLevelWord "error" ∧ (∀ act ∈ later, ¬ act.IsSetUp) ∧
      (start.run (before ++ .setUp 1 (some "chatty") :: later)).SplitsAt 30 40 := by
  intro before later
  have hlog : IsLevelWord "chatty" := by decide
  have hprint : IsLevelWord "error" := by decide
  have hlater : ∀ act ∈ later, ¬ act.IsSetUp := by simp [later, Act.IsSetUp]
  have hsplit := (last_setUp_decides start before later 1 (some "chatty") hlog hprint hlater).1
  have hleast : levelOf "chatty" = 30 := by decide
  have hthreshold : max (levelOf "error") debug = 40 := by decide
  have hsettings : ((start.run before).settings 1).withLogLevel (some "chatty") =
      ⟨"chatty", "error", false⟩ := rfl
  rw [hsettings, hleast, hthreshold] at hsplit
  exact ⟨hlog, hprint, hlater, hsplit⟩

end Session

end BuildSpec.Log
