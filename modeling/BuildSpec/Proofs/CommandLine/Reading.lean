import BuildSpec.CommandLine.Run
import BuildSpec.Proofs.Log.Levels

/-!
# Command lines with one row of paths

Most command lines are written in one way: options with their values, a row of paths, options again.
`Line` describes them as they are meant, `Line.arguments` as they are written, and `read_arguments`
says that they are read as they are meant.

* `ofString_path`, `ofString_spelling`, `ofString_joined` — one word by itself;
* `ofStrings_arguments` — the words of a line one after another;
* `readWords_choices`, `readWords_row` — options are taken in turn, and a row of paths as a whole;
* `run_of_read`, `run_arguments` — so a run over such a line answers what the line asks for.
-/

namespace BuildSpec

/-- The levels that an environment sets are given by their names. -/
structure Environment.HasLevelNames (e : Environment) : Prop where
  log : ∀ word, e.logLevel = some word → Log.IsLevelName word
  print : ∀ word, e.printLevel = some word → Log.IsLevelName word

namespace CommandLine

/-! ## Lines -/

/-- What can be set on a command line. -/
inductive Setting where
  | format (f : ReportFormat)
  | logLevel (word : String) (isName : Log.IsLevelName word)

namespace Setting

/-- The option that sets it. -/
def flag : Setting → Flag
  | format _ => .format
  | logLevel .. => .logLevel

/-- The option as it is written. -/
def spelling : Setting → String
  | format _ => "--format"
  | logLevel .. => "--log-level"

/-- The value as it is written. -/
def value : Setting → String
  | format f => f.name
  | logLevel word _ => word

end Setting

/-- An option with its value, in two words or in one with an equals sign. -/
structure Choice where
  setting : Setting
  isJoined : Bool

/-- The words for a choice. -/
def Choice.words (c : Choice) : List String :=
  if c.isJoined then [c.setting.spelling ++ "=" ++ c.setting.value]
  else [c.setting.spelling, c.setting.value]

/-- A request with one more setting. -/
def Request.set (r : Request) : Setting → Request
  | .format f => { r with format := f }
  | .logLevel word _ => { r with logLevel := some word }

/-- A request with the settings of some choices; of several values for one option the last one
counts. -/
def Request.setAll (r : Request) (choices : List Choice) : Request :=
  choices.foldl (fun r c => r.set c.setting) r

/-- A command line with options around one row of paths.  No path starts with a dash. -/
structure Line where
  before : List Choice
  paths : List String
  after : List Choice
  arePaths : ∀ path ∈ paths, path.toList.head? ≠ some '-'

namespace Line

/-- A line as it is written. -/
def arguments (l : Line) : List String :=
  l.before.flatMap Choice.words ++ l.paths ++ l.after.flatMap Choice.words

/-- What a line asks for. -/
def request (l : Line) : Request :=
  (Request.mk .human none l.paths).setAll (l.before ++ l.after)

end Line

/-! ## One word -/

namespace Word

/-- A word that does not start with a dash is no option. -/
theorem ofString_path {word : String} (h : word.toList.head? ≠ some '-') :
    ofString word = .ok (.plain word) := by
  unfold ofString
  split
  · next c rest hlist => simp [hlist] at h
  · rfl

theorem ofString_spelling (s : Setting) :
    ofString s.spelling = .ok (.option s.flag false .none) := by
  cases s with
  | format f => simp only [Setting.spelling, Setting.flag]; rfl
  | logLevel word isName => simp only [Setting.spelling, Setting.flag]; rfl

/-- A text with an equals sign is cut there. -/
theorem cut_append {name value : List Char} (h : '=' ∉ name) :
    cut (name ++ '=' :: value) = (name, .value value) := by
  have hname : ∀ c ∈ name, decide (c ≠ '=') = true := by
    intro c hc
    rw [decide_eq_true_iff]
    rintro rfl
    exact h hc
  unfold cut
  rw [List.dropWhile_append_of_pos hname, List.takeWhile_append_of_pos hname]
  simp

/-- An option has no equals sign in its spelling. -/
theorem ofString?_eq_none {word : String} (h : '=' ∈ word.toList) : Flag.ofString? word = none := by
  have hspellings : ∀ e ∈ Flag.table, '=' ∉ e.1.toList := by decide
  refine List.lookup_eq_none_iff.mpr fun e he => ?_
  rw [bne_iff_ne]
  rintro rfl
  exact hspellings e he h

theorem ofString_joined (s : Setting) :
    ofString (s.spelling ++ "=" ++ s.value) =
      .ok (.option s.flag false (.value s.value.toList)) := by
  have hlist : (s.spelling ++ "=" ++ s.value).toList =
      s.spelling.toList ++ '=' :: s.value.toList := by
    simp [String.toList_append]
  have hnone : Flag.ofString? (s.spelling ++ "=" ++ s.value) = none :=
    ofString?_eq_none (by simp [hlist])
  have hflag : Flag.ofString? (String.ofList s.spelling.toList) = some s.flag := by
    rw [String.ofList_toList]
    cases s <;> simp only [Setting.spelling, Setting.flag] <;> rfl
  have hequals : '=' ∉ s.spelling.toList := by
    cases s <;> simp [Setting.spelling]
  obtain ⟨rest, hdashes⟩ : ∃ rest, s.spelling.toList = '-' :: '-' :: rest := by
    cases s <;> simp [Setting.spelling]
  have hword : (s.spelling ++ "=" ++ s.value).toList =
      '-' :: '-' :: (rest ++ '=' :: s.value.toList) := by
    rw [hlist, hdashes]
    rfl
  have hshort : isShortSpelling (s.spelling ++ "=" ++ s.value) = false := by
    rw [isShortSpelling, hword]
    rfl
  have hcut : cut ('-' :: '-' :: (rest ++ '=' :: s.value.toList)) =
      (s.spelling.toList, .value s.value.toList) := by
    rw [← hword, hlist, cut_append hequals]
  simp only [ofString, hword, hcut, hnone, hflag, hshort]

/-- Two dashes alone may stand for any option. -/
theorem ne_dashes_of_ofString {word : String} {w : Word} (h : ofString word = .ok w) :
    word ≠ "--" := by
  rintro rfl
  have hambiguous : (ofString "--").toOption = none := rfl
  rw [h] at hambiguous
  cases hambiguous

/-! ## The words of a line -/

theorem ofStrings_cons {word : String} {w : Word} {rest : List String} {ws : List Word}
    (hfirst : ofString word = .ok w) (hrest : ofStrings rest = .ok ws) :
    ofStrings (word :: rest) = .ok (w :: ws) := by
  rw [ofStrings, if_neg (ne_dashes_of_ofString hfirst), hfirst, hrest]
  rfl

end Word

theorem Setting.head_value_ne_dash (s : Setting) : s.value.toList.head? ≠ some '-' := by
  cases s with
  | format f => cases f <;> decide
  | logLevel word isName => exact Log.head_ne_dash_of_isLevelName isName

namespace Choice

/-- The words for a choice, looked at one by one. -/
def wordsRead (c : Choice) : List Word :=
  if c.isJoined then [.option c.setting.flag false (.value c.setting.value.toList)]
  else [.option c.setting.flag false .none, .plain c.setting.value]

theorem ofStrings_append (c : Choice) {rest : List String} {ws : List Word}
    (h : Word.ofStrings rest = .ok ws) :
    Word.ofStrings (c.words ++ rest) = .ok (c.wordsRead ++ ws) := by
  unfold words wordsRead
  split
  · exact Word.ofStrings_cons (Word.ofString_joined c.setting) h
  · refine Word.ofStrings_cons (Word.ofString_spelling c.setting) ?_
    exact Word.ofStrings_cons (Word.ofString_path c.setting.head_value_ne_dash) h

theorem ofStrings_flatMap_append (choices : List Choice) {rest : List String} {ws : List Word}
    (h : Word.ofStrings rest = .ok ws) :
    Word.ofStrings (choices.flatMap words ++ rest) =
      .ok (choices.flatMap wordsRead ++ ws) := by
  induction choices with
  | nil => exact h
  | cons c rest ih =>
      rw [List.flatMap_cons, List.flatMap_cons, List.append_assoc, List.append_assoc]
      exact c.ofStrings_append ih

end Choice

theorem Word.ofStrings_paths_append {paths rest : List String} {ws : List Word}
    (hpaths : ∀ path ∈ paths, path.toList.head? ≠ some '-') (h : ofStrings rest = .ok ws) :
    ofStrings (paths ++ rest) = .ok (paths.map .plain ++ ws) := by
  induction paths with
  | nil => exact h
  | cons path others ih =>
      obtain ⟨hpath, hothers⟩ := List.forall_mem_cons.mp hpaths
      exact ofStrings_cons (ofString_path hpath) (ih hothers)

/-- The words of a line are options, paths and options again. -/
theorem ofStrings_arguments (l : Line) :
    Word.ofStrings l.arguments =
      .ok (l.before.flatMap Choice.wordsRead ++
        (l.paths.map .plain ++ l.after.flatMap Choice.wordsRead)) := by
  have hnothing : Word.ofStrings [] = .ok [] := rfl
  have hafter : Word.ofStrings (l.after.flatMap Choice.words) =
      .ok (l.after.flatMap Choice.wordsRead) := by
    simpa using Choice.ofStrings_flatMap_append l.after hnothing
  rw [Line.arguments, List.append_assoc]
  exact Choice.ofStrings_flatMap_append l.before (Word.ofStrings_paths_append l.arePaths hafter)

/-! ## Reading the words -/

namespace Progress

/-- The progress with a setting. -/
def set (p : Progress) : Setting → Progress
  | .format f => { p with format := f }
  | .logLevel word _ => { p with logLevel := some word }

/-- The progress with the settings of some choices. -/
def setAll (p : Progress) (choices : List Choice) : Progress :=
  choices.foldl (fun p c => p.set c.setting) p

/-- What is asked for so far. -/
def request (p : Progress) : Request := ⟨p.format, p.logLevel, p.paths.getD []⟩

theorem takeValue_setting (p : Progress) (s : Setting) :
    p.takeValue s.flag s.value = .ok (p.set s) := by
  cases s with
  | format f => cases f <;> rfl
  | logLevel word isName => rfl

end Progress

/-- An option is taken with its value, however the two are written. -/
theorem readWords_choice (p : Progress) (c : Choice) (rest : List Word) :
    readWords p (c.wordsRead ++ rest) = readWords (p.set c.setting) rest := by
  obtain ⟨s, isJoined⟩ := c
  have hflag : s.flag ≠ .help := by cases s <;> simp [Setting.flag]
  have hvalue := p.takeValue_setting s
  cases isJoined with
  | true =>
      simp only [Choice.wordsRead, if_true, List.cons_append, List.nil_append]
      rw [readWords, String.ofList_toList, hvalue]
      · rfl
      · exact hflag
  | false =>
      simp only [Choice.wordsRead, Bool.false_eq_true, if_false, List.cons_append, List.nil_append]
      rw [readWords, hvalue]
      · rfl
      · exact hflag

theorem readWords_choices (p : Progress) (choices : List Choice) (rest : List Word) :
    readWords p (choices.flatMap Choice.wordsRead ++ rest) =
      readWords (p.setAll choices) rest := by
  induction choices generalizing p with
  | nil => rfl
  | cons c others ih =>
      rw [List.flatMap_cons, List.append_assoc, readWords_choice, ih]
      rfl

/-- Options do not stand in a row of paths. -/
theorem rowOf_choices (after : List Choice) :
    (after.flatMap Choice.wordsRead).takeWhile Word.isInRow = [] ∧
      (after.flatMap Choice.wordsRead).dropWhile Word.isInRow =
        after.flatMap Choice.wordsRead := by
  cases after with
  | nil => exact ⟨rfl, rfl⟩
  | cons c rest =>
      obtain ⟨s, isJoined⟩ := c
      cases isJoined <;> simp [Choice.wordsRead, Word.isInRow, Word.text?]

theorem Progress.takeRow_paths {p : Progress} (hnone : p.paths = none) (paths : List String) :
    p.takeRow (paths.map .plain) = { p with paths := some paths } := by
  have hplain : (paths.map Word.plain).filter (· ≠ .divider) = paths.map .plain :=
    List.filter_eq_self.mpr (by simp)
  have htexts : (paths.map Word.plain).filterMap Word.text? = paths := by
    simp [List.filterMap_map, Function.comp_def, Word.text?]
  unfold takeRow
  rw [hnone, hplain, htexts]

/-- Behind a row of paths comes an option or nothing, so the row is taken as a whole. -/
theorem readWords_row {p : Progress} (hnone : p.paths = none) {paths : List String}
    (hpaths : paths ≠ []) (after : List Choice) :
    readWords p (paths.map .plain ++ after.flatMap Choice.wordsRead) =
      readWords { p with paths := some paths } (after.flatMap Choice.wordsRead) := by
  obtain ⟨path, others, rfl⟩ := List.exists_cons_of_ne_nil hpaths
  have hrow : ∀ w ∈ others.map Word.plain, w.isInRow = true := by
    intro w hw
    obtain ⟨text, -, rfl⟩ := List.mem_map.mp hw
    rfl
  obtain ⟨htaken, hleft⟩ := rowOf_choices after
  rw [List.map_cons, List.cons_append, readWords, List.takeWhile_append_of_pos hrow,
    List.dropWhile_append_of_pos hrow, htaken, hleft, List.append_nil, ← List.map_cons,
    Progress.takeRow_paths hnone]

/-- Settings change what is asked for, and nothing else. -/
theorem Progress.setAll_spec (p : Progress) (choices : List Choice) :
    (p.setAll choices).request = p.request.setAll choices ∧
      (p.setAll choices).extra = p.extra ∧ (p.setAll choices).paths = p.paths := by
  induction choices generalizing p with
  | nil => exact ⟨rfl, rfl, rfl⟩
  | cons c rest ih =>
      obtain ⟨hrequest, hextra, hpaths⟩ := ih (p.set c.setting)
      obtain ⟨s, isJoined⟩ := c
      cases s <;> exact ⟨hrequest, hextra, hpaths⟩

theorem Request.setAll_paths (r : Request) (paths : List String) (choices : List Choice) :
    Request.setAll { r with paths } choices = { r.setAll choices with paths } := by
  induction choices generalizing r with
  | nil => rfl
  | cons c rest ih =>
      have hset : Request.set { r with paths } c.setting = { r.set c.setting with paths } := by
        cases c.setting <;> rfl
      exact (congrArg (Request.setAll · rest) hset).trans (ih (r.set c.setting))

/-- At the end of a line come options. -/
theorem readWords_after {p : Progress} (hextra : p.extra = []) (after : List Choice) :
    readWords p (after.flatMap Choice.wordsRead) =
      .ok (.request (p.request.setAll after)) := by
  obtain ⟨hrequest, hkept, -⟩ := p.setAll_spec after
  rw [← List.append_nil (after.flatMap Choice.wordsRead), readWords_choices, readWords, ← hrequest,
    Progress.finish, hkept, hextra]
  rfl

/-- **A line is read as it is meant.** -/
theorem read_arguments (l : Line) : read l.arguments = .ok (.request l.request) := by
  obtain ⟨hrequest, hextra, hpaths⟩ := Progress.start.setAll_spec l.before
  have hread : read l.arguments = readWords (Progress.start.setAll l.before)
      (l.paths.map .plain ++ l.after.flatMap Choice.wordsRead) := by
    rw [read, ofStrings_arguments, ← readWords_choices]
    rfl
  have hasked : l.request =
      Request.setAll { Progress.start.request.setAll l.before with paths := l.paths } l.after := by
    rw [← Request.setAll_paths]
    exact List.foldl_append
  by_cases hnone : l.paths = []
  · rw [hread, hasked, hnone, List.map_nil, List.nil_append, readWords_after hextra, ← hrequest,
      Progress.request, hpaths]
    rfl
  · have hrow := readWords_row hpaths hnone l.after
    rw [hread, hrow, readWords_after (by exact hextra), hasked, ← hrequest]
    rfl

/-! ## The run -/

/-- The log level of a request is given by its name. -/
theorem isLevelName_of_setAll {choices : List Choice} {r : Request}
    (hr : ∀ word, r.logLevel = some word → Log.IsLevelName word) :
    ∀ word, (r.setAll choices).logLevel = some word → Log.IsLevelName word := by
  induction choices generalizing r with
  | nil => exact hr
  | cons c rest ih =>
      obtain ⟨s, isJoined⟩ := c
      refine ih fun word hword => ?_
      cases s with
      | format f => exact hr word hword
      | logLevel named isName =>
          obtain rfl := Option.some.inj hword
          exact isName

/-- Settings with a log level from a request have levels that are given by their names. -/
theorem isLevelName_withLogLevel {e : Environment} (h : e.HasLevelNames) {level : Option String}
    (hlevel : ∀ word, level = some word → Log.IsLevelName word) :
    Log.IsLevelName ((RunSettings.ofEnvironment e).withLogLevel level).logLevel ∧
      Log.IsLevelName ((RunSettings.ofEnvironment e).withLogLevel level).printLevel := by
  have hlog : Log.IsLevelName (RunSettings.ofEnvironment e).logLevel :=
    Log.isLevelName_getD h.log
  have hprint : Log.IsLevelName (RunSettings.ofEnvironment e).printLevel :=
    Log.isLevelName_getD h.print
  unfold RunSettings.withLogLevel
  split
  · exact ⟨hlog, hprint⟩
  · exact ⟨hlog, hprint⟩
  · next word _ => exact ⟨hlevel word rfl, hprint⟩

/-- A run over words that are read as a request answers the request. -/
theorem run_of_read (w : World) (h : w.environment.HasLevelNames) {arguments : List String}
    {r : Request} (hread : read arguments = .ok (.request r))
    (hlevel : ∀ word, r.logLevel = some word → Log.IsLevelName word) :
    let settings := (RunSettings.ofEnvironment w.environment).withLogLevel r.logLevel
    ∃ routing, settings.routing = .ok routing ∧
      w.run arguments = .ok (w.answer settings.cacheEnabled routing r) := by
  obtain ⟨hlog, hprint⟩ := isLevelName_withLogLevel h hlevel
  obtain ⟨routing, hrouting⟩ := RunSettings.exists_routing hlog hprint
  refine ⟨routing, hrouting, ?_⟩
  rw [World.run, hread]
  simp only [hrouting]
  rfl

/-- **A run over a line answers what the line asks for**, with some routing of the log. -/
theorem run_arguments (w : World) (h : w.environment.HasLevelNames) (l : Line) :
    ∃ (keeps : Bool) (routing : Log.Routing),
      w.run l.arguments = .ok (w.answer keeps routing l.request) := by
  have hrequest : ∀ word, l.request.logLevel = some word → Log.IsLevelName word :=
    isLevelName_of_setAll fun word hword => by cases hword
  obtain ⟨routing, -, hrun⟩ := run_of_read w h (read_arguments l) hrequest
  exact ⟨_, routing, hrun⟩

end CommandLine

end BuildSpec
