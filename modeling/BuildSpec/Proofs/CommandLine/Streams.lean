import BuildSpec.Proofs.CommandLine.ExitCode
import BuildSpec.Proofs.Report.Document
import BuildSpec.Proofs.SpecFile.Logs

/-!
# The report and the log on one stream

The standard output of a run holds the records of the log that are kept and lie below the print
level, and behind them the report.  So whoever pipes a report must see to it that there are no such
records:

* `written_eq_empty_or` — a stream is empty or begins with a record;
* `output_answer_json` — the report stands behind the records;
* `output_eq_json_iff` — it stands alone if no file gives rise to a record that is printed;
* `read?_output_eq_none` — otherwise there is no document to be read;
* `json_output_is_alone_iff` — the same for a run over a command line;
* `ordinary_work_is_in_front` — a run whose output is no document.
-/

namespace BuildSpec

open Text

/-! ## Records on a stream -/

namespace Log

/-- Records of a level are kept, and lie below the print level. -/
def Routing.Prints (r : Routing) (level : Int) : Prop := r.root ≤ level ∧ level < r.threshold

/-- From the least level on, the records that are printed go to the standard output. -/
theorem Routing.prints_iff {r : Routing} {level : Int} (h : debug ≤ level) :
    r.Prints level ↔ (r.keeps level && r.takes .output level) = true := by
  have hdebug : debug = 10 := rfl
  have hfloor : floor = 10 := rfl
  rw [hdebug] at h
  simp only [Prints, keeps, takes, hfloor, Bool.and_eq_true, decide_eq_true_eq]
  omega

/-- A print level that does not exceed the log level keeps everything off the standard output. -/
theorem Routing.not_prints_of_le {level print n : Int} (hle : print ≤ level) (h : debug ≤ n) :
    ¬ (ofLevels level print).Prints n := by
  have hdebug : debug = 10 := rfl
  have hfloor : floor = 10 := rfl
  rw [hdebug] at h
  simp only [Prints, ofLevels, hfloor]
  omega

/-- A stream is empty, or it begins with a record that it takes. -/
theorem Routing.written_eq_empty_or (r : Routing) (s : Stream) (records : List Record) :
    (r.written s records = "" ∧
      ∀ record ∈ records, ¬ (r.keeps record.level && r.takes s record.level) = true) ∨
    ∃ record ∈ records, (r.keeps record.level && r.takes s record.level) = true ∧
      (line record).toList <+: (r.written s records).toList := by
  cases htaken : records.filter fun x => r.keeps x.level && r.takes s x.level with
  | nil =>
      refine .inl ⟨?_, List.filter_eq_nil_iff.mp htaken⟩
      rw [written, htaken, List.map_nil, String.join_nil]
  | cons record rest =>
      have hfirst : record ∈ records.filter fun x => r.keeps x.level && r.takes s x.level := by
        rw [htaken]
        exact List.mem_cons_self
      refine .inr ⟨record, (List.mem_filter.mp hfirst).1, (List.mem_filter.mp hfirst).2, ?_⟩
      rw [written, htaken, List.map_cons, String.join_cons, String.toList_append]
      exact List.prefix_append _ _

/-- A record is written with the name of its logger in front. -/
theorem head?_line {record : Record} {c : Char} (h : record.logger.toList.head? = some c) :
    (Routing.line record).toList.head? = some c := by
  have hname : record.logger ≠ "" := by
    intro hempty
    rw [hempty] at h
    cases h
  rw [Routing.line, if_neg hname]
  simp [String.toList_append, List.head?_append, h]

end Log

namespace CommandLine.World

variable {w : World} {keeps : Bool} {routing : Log.Routing} {r : Request}

/-! ## The standard output of an answer -/

/-- The reports of a run. -/
def reports (w : World) (keeps : Bool) (roots : List Path) : List Report :=
  (w.checks keeps roots).map SpecFile.Check.report

/-- The log of a run. -/
def log (w : World) (keeps : Bool) (roots : List Path) : List Log.Record :=
  (w.checks keeps roots).flatMap SpecFile.Check.log

/-- The log has a record of a level if one of the files gives rise to it. -/
theorem exists_mem_log_iff {roots : List Path} {level : Int} :
    (∃ record ∈ w.log keeps roots, record.level = level) ↔
      ∃ file ∈ SpecFile.find w.tree roots, SpecFile.Logs w.tree file level :=
  SpecFile.exists_mem_log_checkFiles_iff (SpecFile.Loader.faithful_fresh w.tree keeps)

/-- The levels of the log are those that the files give rise to. -/
theorem forall_mem_log_iff {roots : List Path} {P : Int → Prop} :
    (∀ record ∈ w.log keeps roots, P record.level) ↔
      ∀ file ∈ SpecFile.find w.tree roots, ∀ level, SpecFile.Logs w.tree file level → P level := by
  constructor
  · intro h file hfile level hlogs
    obtain ⟨record, hrecord, rfl⟩ := exists_mem_log_iff.mpr ⟨file, hfile, hlogs⟩
    exact h record hrecord
  · intro h record hrecord
    obtain ⟨file, hfile, hlogs⟩ := exists_mem_log_iff.mp ⟨record, hrecord, rfl⟩
    exact h file hfile _ hlogs

theorem head?_line_of_mem_log {roots : List Path} {record : Log.Record}
    (h : record ∈ w.log keeps roots) : (Log.Routing.line record).toList.head? = some 'p' := by
  have hnames : ∀ name ∈ SpecFile.loggers, name.toList.head? = some 'p' := by decide
  exact Log.head?_line (hnames _ (SpecFile.logger_mem_of_mem_log_checkFiles h))

/-- **The report stands behind the records that go to the standard output.** -/
theorem output_answer_json (hjson : r.format = .json) (hfound : SpecFile.find w.tree r.roots ≠ []) :
    (w.answer keeps routing r).output =
      routing.written .output (w.log keeps r.roots) ++
        (Report.json (w.reports keeps r.roots) ++ "\n") := by
  have hchecks : (w.checks keeps r.roots).isEmpty = false := by
    rw [List.isEmpty_eq_false_iff, ne_eq, w.checks_eq_nil_iff]
    exact hfound
  have hline : lineOf (r.format.write (w.reports keeps r.roots)) =
      Report.json (w.reports keeps r.roots) ++ "\n" := by
    rw [hjson]
    exact if_neg (Report.json_ne_empty _)
  simp only [answer, hchecks, Bool.false_eq_true, if_false]
  rw [hjson, if_neg (by simp), String.append_empty, ← hline, hjson]
  rfl

theorem debug_le_of_mem_log {roots : List Path} {record : Log.Record}
    (h : record ∈ w.log keeps roots) : Log.debug ≤ record.level := by
  obtain ⟨file, -, hlogs⟩ := exists_mem_log_iff.mp ⟨record, h, rfl⟩
  exact hlogs.debug_le

/-- **The report stands alone, or a record that is printed stands in front.** -/
theorem output_answer_json_cases (keeps : Bool) (routing : Log.Routing) (hjson : r.format = .json)
    (hfound : SpecFile.find w.tree r.roots ≠ []) :
    ((∀ record ∈ w.log keeps r.roots, ¬ routing.Prints record.level) ∧
      (w.answer keeps routing r).output = Report.json (w.reports keeps r.roots) ++ "\n") ∨
    ∃ record ∈ w.log keeps r.roots, routing.Prints record.level ∧
      (Log.Routing.line record).toList <+: (w.answer keeps routing r).output.toList := by
  rw [output_answer_json hjson hfound]
  rcases routing.written_eq_empty_or .output (w.log keeps r.roots) with
    ⟨hempty, hnone⟩ | ⟨record, hrecord, htaken, hfront⟩
  · refine .inl ⟨fun record hrecord => ?_, by rw [hempty, String.empty_append]⟩
    rw [Log.Routing.prints_iff (debug_le_of_mem_log hrecord)]
    exact hnone record hrecord
  · refine .inr ⟨record, hrecord, ?_, ?_⟩
    · exact (Log.Routing.prints_iff (debug_le_of_mem_log hrecord)).mpr htaken
    · rw [String.toList_append]
      exact hfront.trans (List.prefix_append _ _)

/-- A text with a record in front is no document. -/
theorem read?_eq_none_of_mem_log {roots : List Path} {record : Log.Record} {text : String}
    (hrecord : record ∈ w.log keeps roots)
    (h : (Log.Routing.line record).toList <+: text.toList) : Json.read? text = none := by
  obtain ⟨rest, htext⟩ := h
  refine Json.read?_eq_none (c := 'p') ?_ (by decide) (by decide) (by decide)
  rw [← htext, List.head?_append, head?_line_of_mem_log hrecord]
  rfl

/-- The output is the document exactly if no record is printed. -/
theorem output_eq_json_iff (hjson : r.format = .json)
    (hfound : SpecFile.find w.tree r.roots ≠ []) :
    (w.answer keeps routing r).output = Report.json (w.reports keeps r.roots) ++ "\n" ↔
      ∀ file ∈ SpecFile.find w.tree r.roots, ∀ level, SpecFile.Logs w.tree file level →
        ¬ routing.Prints level := by
  rw [← forall_mem_log_iff]
  rcases output_answer_json_cases keeps routing hjson hfound with
    ⟨hnone, halone⟩ | ⟨record, hrecord, hprints, hfront⟩
  · exact iff_of_true halone hnone
  · refine iff_of_false (fun halone => ?_) fun hnone => hnone record hrecord hprints
    have hread := Report.read?_json (w.reports keeps r.roots) "\n" rfl
    rw [← halone, read?_eq_none_of_mem_log hrecord hfront] at hread
    cases hread

/-- The output is no document if a file gives rise to a record that is printed. -/
theorem read?_output_eq_none (keeps : Bool) (hjson : r.format = .json) {file : Path} {level : Int}
    (hfile : file ∈ SpecFile.find w.tree r.roots) (hlogs : SpecFile.Logs w.tree file level)
    (hprints : routing.Prints level) : Json.read? (w.answer keeps routing r).output = none := by
  rcases output_answer_json_cases keeps routing hjson (List.ne_nil_of_mem hfile) with
    ⟨hnone, -⟩ | ⟨record, hrecord, -, hfront⟩
  · rw [forall_mem_log_iff (P := fun level => ¬ routing.Prints level)] at hnone
    exact absurd hprints (hnone file hfile level hlogs)
  · exact read?_eq_none_of_mem_log hrecord hfront

/-- **A report on the standard output is alone exactly if no record is printed.**  Levels being
given by their names, a run that is asked for a document and finds spec files comes to its end.  The
output is the document, with a line feed behind it, if no file gives rise to a record that is kept
and lies below the print level: one for debugging comes with each file that is read, one about the
work with each spec that is checked, a warning with each spec that has a ring of setting groups.  It
is so in any case if the print level does not exceed the log level.  Otherwise the output begins
with a record and cannot be read as a document. -/
theorem json_output_is_alone_iff (w : World) (hlevels : w.environment.HasLevelNames)
    {arguments : List String} {r : Request} (hread : read arguments = .ok (.request r))
    (hjson : r.format = .json) (hlevel : ∀ word, r.logLevel = some word → Log.IsLevelName word)
    (hfound : SpecFile.find w.tree r.roots ≠ []) :
    let settings := (RunSettings.ofEnvironment w.environment).withLogLevel r.logLevel
    let log := w.log settings.cacheEnabled r.roots
    let reports := w.reports settings.cacheEnabled r.roots
    let report := Report.json reports ++ "\n"
    ∃ routing outcome, settings.routing = .ok routing ∧ w.run arguments = .ok outcome ∧
      outcome.output = routing.written .output log ++ report ∧
      (outcome.output = report ↔ ∀ file ∈ SpecFile.find w.tree r.roots, ∀ level,
        SpecFile.Logs w.tree file level → ¬ routing.Prints level) ∧
      (∀ level print, Log.LevelWord.ofString settings.logLevel = .level level →
        Log.LevelWord.ofString settings.printLevel = .level print → print ≤ level →
          outcome.output = report) ∧
      (outcome.output = report ∧ Json.read? outcome.output = some (Report.summary reports) ∨
        Json.read? outcome.output = none ∧ ∃ record ∈ log, routing.Prints record.level ∧
          (Log.Routing.line record).toList <+: outcome.output.toList) := by
  intro settings log reports report
  obtain ⟨routing, hrouting, hrun⟩ := run_of_read w hlevels hread hlevel
  refine ⟨routing, _, hrouting, hrun, output_answer_json hjson hfound,
    output_eq_json_iff hjson hfound, ?_, ?_⟩
  · intro level print hlog hprint hle
    refine (output_eq_json_iff hjson hfound).mpr fun file hfile n hlogs => ?_
    have hlevels : routing = .ofLevels level print :=
      Except.ok.inj (hrouting.symm.trans (RunSettings.routing_eq hlog hprint))
    rw [hlevels]
    exact Log.Routing.not_prints_of_le hle hlogs.debug_le
  · rcases output_answer_json_cases settings.cacheEnabled routing hjson hfound with
      ⟨-, halone⟩ | ⟨record, hrecord, hprints, hfront⟩
    · exact .inl ⟨halone, halone ▸ Report.read?_json reports "\n" rfl⟩
    · exact .inr ⟨read?_eq_none_of_mem_log hrecord hfront, record, hrecord, hprints, hfront⟩

/-- A world with a spec that has only a name. -/
def nameWorld : World where
  environment := ⟨none, none, none, none⟩
  tree := ⟨[(["project.yml"], .file (.ok "name: Tools\n".toUTF8.toList))], []⟩
  pathExists _ _ := true
  wording := id

/-- The requests for a document about the spec. -/
def nameLine (choices : List Choice) : Line where
  before := ⟨.format .json, false⟩ :: choices
  paths := ["project.yml"]
  after := []
  arePaths := by decide

theorem nameWorld_hasLevelNames : nameWorld.environment.HasLevelNames := by
  constructor <;> (intro word hword; cases hword)

theorem mem_find_nameWorld :
    .ofString "project.yml" ∈ SpecFile.find nameWorld.tree [.ofString "project.yml"] :=
  SpecFile.mem_find_iff.mpr ⟨_, List.mem_cons_self, by decide⟩

theorem exists_readSpec_nameWorld :
    ∃ spec, (SpecFile.readSpec (.fresh false) nameWorld.tree true (.ofString "project.yml")).1 =
      .ok spec := by
  have hsome : (SpecFile.readSpec (.fresh false) nameWorld.tree true
      (.ofString "project.yml")).1.toOption.isSome = true := by decide +kernel
  obtain ⟨spec, hspec⟩ := Option.isSome_iff_exists.mp hsome
  exact ⟨spec, toOption_eq_some_iff.mp hspec⟩

/-- With the levels that are set by default, the report on the spec is alone. -/
theorem nameWorld_is_reported_alone :
    nameWorld.environment.HasLevelNames ∧
      SpecFile.find nameWorld.tree [.ofString "project.yml"] ≠ [] ∧
      ∃ outcome, nameWorld.run ["--format", "json", "project.yml"] = .ok outcome ∧
        outcome.output = Report.json (nameWorld.reports false [.ofString "project.yml"]) ++ "\n" := by
  have hfound := List.ne_nil_of_mem mem_find_nameWorld
  obtain ⟨routing, outcome, -, hrun, -, -, halone, -⟩ :=
    json_output_is_alone_iff nameWorld nameWorld_hasLevelNames (read_arguments (nameLine [])) rfl
      (fun word hword => by cases hword) hfound
  exact ⟨nameWorld_hasLevelNames, hfound, outcome, hrun,
    halone 30 30 (by decide) (by decide) (by decide)⟩

/-- **A run that tells of ordinary work writes no document.**  It finds a spec file, and the record
that the spec has been checked stands in front of the report. -/
theorem ordinary_work_is_in_front :
    nameWorld.environment.HasLevelNames ∧ Log.IsLevelName "INFO" ∧
      SpecFile.find nameWorld.tree [.ofString "project.yml"] ≠ [] ∧
      ∃ outcome,
        nameWorld.run ["--format", "json", "--log-level", "INFO", "project.yml"] = .ok outcome ∧
        Json.read? outcome.output = none ∧
        ∀ reports, outcome.output ≠ Report.json reports ++ "\n" := by
  have hname : Log.IsLevelName "INFO" := by decide
  let settings := (RunSettings.ofEnvironment nameWorld.environment).withLogLevel (some "INFO")
  obtain ⟨routing, hrouting, hrun⟩ := run_of_read nameWorld nameWorld_hasLevelNames
    (read_arguments (nameLine [⟨.logLevel "INFO" hname, false⟩]))
    (fun word hword => by cases hword; exact hname)
  have hlevels : settings.routing = .ok (.ofLevels 20 30) :=
    RunSettings.routing_eq (by decide) (by decide)
  obtain rfl : routing = .ofLevels 20 30 := Except.ok.inj (hrouting.symm.trans hlevels)
  obtain ⟨spec, hspec⟩ := exists_readSpec_nameWorld
  have hprints : (Log.Routing.ofLevels 20 30).Prints Log.info := ⟨by decide, by decide⟩
  have hunread := read?_output_eq_none settings.cacheEnabled
    (r := (nameLine [⟨.logLevel "INFO" hname, false⟩]).request) rfl mem_find_nameWorld
    (.checking hspec) hprints
  refine ⟨nameWorld_hasLevelNames, hname, List.ne_nil_of_mem mem_find_nameWorld, _, hrun,
    hunread, fun reports halone => ?_⟩
  have hread := Report.read?_json reports "\n" rfl
  rw [← halone] at hread
  cases hread.symm.trans hunread

end CommandLine.World

end BuildSpec
