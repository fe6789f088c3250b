import BuildSpec.Proofs.Number.Numeral
import BuildSpec.Proofs.Text.Lines
import BuildSpec.Report.Markdown
import Mathlib.Data.List.Forall2

/-!
# Reading a page

A page in Markdown is a flat text, but it can be read back: its headings divide it into sections,
and the bars of a table divide a row into cells, unless a backslash stands right before them.  What
is read is what was to be told, if no line feeds are told and no bars but in messages:

* `lines_markdown` — the lines of a page;
* `cells?_rowLine` — the cells of a row, whatever bars and backslashes the message holds;
* `cut_pageLines` — the sections of a page;
* `page_shows_reports` — there is a section for each file, with a row for each problem, and the
  totals at the top count the headings and rows of the page.
-/

namespace BuildSpec.Report

open Text (lines)

/-! ## How a page is read -/

/-- What the bars of a text divide.  A bar right behind a backslash, such as there may be before the
text, does not count. -/
def barParts (escaped : Bool) : List Char → List (List Char)
  | [] => [[]]
  | c :: rest =>
    if c = '|' ∧ escaped = false then [] :: barParts false rest
    else (barParts (c = '\\') rest).modifyHead (c :: ·)

/-- The cells of a row, which begins with a bar and ends with one. -/
def cells? (line : String) : Option (List String) :=
  match barParts false line.toList with
  | [] :: rest => if rest.getLast? = some [] then some (rest.dropLast.map String.ofList) else none
  | _ => none

/-- The cell for a text, which has a blank on either side. -/
def cell (text : String) : String := " " ++ text ++ " "

/-- A line is a row whose first cell is the word for a severity. -/
def isRowOf (severity : Severity) (line : String) : Bool :=
  (cells? line).bind List.head? = some (cell severity.text)

/-- A line is the heading of a section. -/
def isHeading (line : String) : Bool := "## ".toList.isPrefixOf line.toList

/-- A heading with the lines below it. -/
structure Section where
  heading : String
  body : List String
  deriving DecidableEq, Repr

/-- The lines above the first heading of a page, and its sections. -/
def cut : List String → List String × List Section
  | [] => ([], [])
  | line :: rest =>
    if isHeading line then ([], ⟨line, (cut rest).1⟩ :: (cut rest).2)
    else (line :: (cut rest).1, (cut rest).2)

/-! ## What is to be read -/

/-- What is told about a problem: its severity, its line, its kind and its message with a backslash
in front of each bar.  What is unknown is a dash. -/
def problemTexts (severity : Severity) (p : Problem) : List String :=
  [severity.text, (p.line.map toString).getD "-", p.kind.getD "-",
    String.ofList (escapeBars p.message.toList)]

/-- The cells for a problem. -/
def problemCells (severity : Severity) (p : Problem) : List String :=
  (problemTexts severity p).map cell

/-- The cells of a table of problems. -/
def tableCells (r : Report) : List (List String) :=
  ["Severity", "Location", "Kind", "Message"].map cell :: ["---", "---", "---", "---"]
    :: (r.errors.map (problemCells .error) ++ r.warnings.map (problemCells .warning))

/-- A section tells a report: it has the name of the file for a heading, and between two empty lines
either says that there are no problems or has a table of them. -/
structure Section.Shows (s : Section) (r : Report) : Prop where
  heading : s.heading = "## \x60" ++ r.file.text ++ "\x60"
  body : ∃ content, s.body = "" :: content ++ [""] ∧
    (r.errors = [] ∧ r.warnings = [] ∧ content = ["No problems found."] ∨
      ¬ (r.errors = [] ∧ r.warnings = []) ∧ content.map cells? = r.tableCells.map some)

/-- The line with totals. -/
def totalsLine (files errors warnings : Nat) : String :=
  "Checked " ++ counted files "spec file" ++ ": " ++ counted errors "error" ++ ", "
    ++ counted warnings "warning" ++ "."

/-- A report fits into a table: no line feeds are told, and no bars but in messages. -/
structure IsTabular (r : Report) : Prop where
  file : '\n' ∉ r.file.text.toList
  message : ∀ x ∈ r.problems, '\n' ∉ x.2.message.toList
  kind : ∀ x ∈ r.problems, ∀ kind, x.2.kind = some kind → '\n' ∉ kind.toList ∧ '|' ∉ kind.toList

/-! ## How a page is put together -/

/-- The row for a problem. -/
def rowLine (severity : Severity) (p : Problem) : String :=
  "|" ++ String.join ((problemCells severity p).map (· ++ "|"))

/-- The lines between the empty lines of a section. -/
def contentLines (r : Report) : List String :=
  if r.isSpotless then ["No problems found."]
  else "| Severity | Location | Kind | Message |" :: "|---|---|---|---|"
    :: r.problems.map fun (severity, p) => rowLine severity p

/-- The section for a file. -/
def sectionOf (r : Report) : Section :=
  ⟨"## \x60" ++ r.file.text ++ "\x60", "" :: contentLines r ++ [""]⟩

/-- The lines of a section. -/
def Section.lines (s : Section) : List String := s.heading :: s.body

/-- The lines above the first heading. -/
def headLines (reports : List Report) : List String :=
  ["# Project spec check report", "",
    totalsLine reports.length (errorCount reports) (warningCount reports), ""]

/-- The lines of a page. -/
def pageLines (reports : List Report) : List String :=
  headLines reports ++ reports.flatMap fun r => (sectionOf r).lines

theorem row_eq (severity : Severity) (p : Problem) :
    row severity p = rowLine severity p ++ "\n" := by
  simp [row, rowLine, problemCells, problemTexts, cell, ← String.toList_inj]

/-- The lines between the empty lines of a section, each ended by a line feed. -/
theorem join_contentLines (r : Report) :
    String.join ((contentLines r).map (· ++ "\n")) =
      if r.isSpotless then "No problems found.\n"
      else tableHead ++ String.join (r.problems.map fun (severity, p) => row severity p) := by
  rw [contentLines]
  split
  · rfl
  · simp [row_eq, tableHead, ← String.toList_inj, Function.comp_def]

theorem markdownSection_eq (r : Report) :
    markdownSection r = String.join ((sectionOf r).lines.map (· ++ "\n")) := by
  simp only [sectionOf, Section.lines, List.map_cons, List.map_append, List.cons_append,
    String.join_cons, String.join_append, join_contentLines, List.map_nil]
  simp [markdownSection, ← String.toList_inj]

/-- The lines above the first heading, each ended by a line feed. -/
theorem join_headLines (reports : List Report) :
    String.join ((headLines reports).map (· ++ "\n")) =
      "# Project spec check report\n\n" ++ totals reports ++ "\n" := by
  have htotals : totals reports =
      totalsLine reports.length (errorCount reports) (warningCount reports) ++ "\n" := by
    simp only [totals, totalsLine, String.append_assoc]
    rfl
  rw [htotals]
  simp [headLines, ← String.toList_inj]

/-- A page is its lines, each ended by a line feed. -/
theorem markdown_eq (reports : List Report) :
    markdown reports = String.join ((pageLines reports).map (· ++ "\n")) := by
  have hsections : String.join (reports.map markdownSection) =
      String.join ((reports.flatMap fun r => (sectionOf r).lines).map (· ++ "\n")) := by
    induction reports with
    | nil => rfl
    | cons r rest ih =>
        rw [List.map_cons, String.join_cons, List.flatMap_cons, List.map_append,
          String.join_append, ih, markdownSection_eq]
  rw [pageLines, List.map_append, String.join_append, join_headLines, ← hsections]
  rfl

variable {r : Report} {reports : List Report}

/-! ## The lines of a page -/

/-- What holds of the words for severities, of numerals and of dashes holds of all that is told about
a problem, if it holds of the kind and of the message. -/
theorem forall_problemTexts {P : String → Prop} (hword : ∀ severity : Severity, P severity.text)
    (hnumber : ∀ n : Nat, P (toString n)) (hdash : P "-") {p : Problem}
    (hkind : ∀ kind, p.kind = some kind → P kind)
    (hmessage : P (String.ofList (escapeBars p.message.toList))) (severity : Severity) :
    ∀ text ∈ problemTexts severity p, P text := by
  have hplace : P ((p.line.map toString).getD "-") := by
    cases p.line with
    | none => exact hdash
    | some line => exact hnumber line
  have hsort : P (p.kind.getD "-") := by
    cases hp : p.kind with
    | none => exact hdash
    | some kind => exact hkind kind hp
  simpa [problemTexts] using ⟨hword severity, hplace, hsort, hmessage⟩

theorem mem_escapeBars {c : Char} {message : List Char} (h : c ∈ escapeBars message) :
    c = '\\' ∨ c ∈ message := by
  obtain ⟨d, hd, hc⟩ := List.mem_flatMap.mp h
  split at hc
  · rcases List.mem_cons.mp hc with rfl | hlast
    · exact .inl rfl
    · exact .inr (List.mem_singleton.mp hlast ▸ hd)
  · exact .inr (List.mem_singleton.mp hc ▸ hd)

/-- A row is on one line if its message and its kind are. -/
theorem notMem_rowLine {p : Problem} (hmessage : '\n' ∉ p.message.toList)
    (hkind : ∀ kind, p.kind = some kind → '\n' ∉ kind.toList) (severity : Severity) :
    '\n' ∉ (rowLine severity p).toList := by
  have htexts : ∀ text ∈ problemTexts severity p, '\n' ∉ text.toList := by
    refine forall_problemTexts (fun severity => by cases severity <;> decide)
      (Number.notMem_toString (by decide)) (by decide) hkind ?_ severity
    rw [String.toList_ofList]
    exact fun hmem => (mem_escapeBars hmem).elim (by decide) hmessage
  simpa [rowLine, problemCells, cell] using htexts

theorem notMem_totalsLine (files errors warnings : Nat) :
    '\n' ∉ (totalsLine files errors warnings).toList := by
  have hcounted : ∀ n name, '\n' ∉ name.toList → '\n' ∉ (counted n name).toList := by
    intro n name hname
    have hn : '\n' ∉ (toString n).toList := Number.notMem_toString (by decide) n
    have hending : '\n' ∉ (if n = 1 then "" else "s").toList := by split <;> decide
    simp only [counted, String.toList_append, List.mem_append, not_or]
    exact ⟨⟨⟨hn, by decide⟩, hname⟩, hending⟩
  simp [totalsLine, hcounted]

/-- The lines between the empty lines of a section: a line of its own, or two lines and a row for
each problem. -/
theorem forall_contentLines {P : String → Prop} (hnone : P "No problems found.")
    (hhead : P "| Severity | Location | Kind | Message |") (hrule : P "|---|---|---|---|")
    (hrow : ∀ x ∈ r.problems, P (rowLine x.1 x.2)) : ∀ l ∈ contentLines r, P l := by
  rw [contentLines]
  split
  · simpa using hnone
  · simp only [List.forall_mem_cons, List.forall_mem_map]
    exact ⟨hhead, hrule, hrow⟩

/-- No line of a page holds a line feed. -/
theorem notMem_pageLines (h : ∀ r ∈ reports, r.IsTabular) :
    ∀ l ∈ pageLines reports, '\n' ∉ l.toList := by
  have hhead : ∀ l ∈ headLines reports, '\n' ∉ l.toList := by
    simp [headLines, notMem_totalsLine]
  have hsection : ∀ r ∈ reports, ∀ l ∈ (sectionOf r).lines, '\n' ∉ l.toList := by
    intro r hr
    have hrow : ∀ x ∈ r.problems, '\n' ∉ (rowLine x.1 x.2).toList := fun x hx =>
      notMem_rowLine ((h r hr).message x hx) (fun kind hkind => ((h r hr).kind x hx kind hkind).1) _
    have hcontent : ∀ l ∈ contentLines r, '\n' ∉ l.toList :=
      forall_contentLines (by decide) (by decide) (by decide) hrow
    simpa [sectionOf, Section.lines, or_imp, forall_and, (h r hr).file] using hcontent
  intro l hl
  rcases List.mem_append.mp hl with hl | hl
  · exact hhead l hl
  · obtain ⟨r, hr, hl⟩ := List.mem_flatMap.mp hl
    exact hsection r hr l hl

/-- The lines of a page. -/
theorem lines_markdown (h : ∀ r ∈ reports, r.IsTabular) :
    lines (markdown reports) = pageLines reports := by
  rw [markdown_eq, Text.lines_join (notMem_pageLines h)]

/-! ## The cells of a row -/

/-- A text is not divided, if there is a blank behind it. -/
def IsWhole (text : List Char) : Prop :=
  ∀ escaped rest, barParts escaped (text ++ ' ' :: rest) =
    (barParts false rest).modifyHead (text ++ ' ' :: ·)

theorem isWhole_nil : IsWhole [] := fun escaped rest => by simp [barParts]

theorem IsWhole.cons {c : Char} (hc : c ≠ '|') {text : List Char} (h : IsWhole text) :
    IsWhole (c :: text) := by
  intro escaped rest
  rw [List.cons_append, barParts, if_neg (fun hbar => hc hbar.1), h, List.modifyHead_modifyHead]
  rfl

theorem IsWhole.escaped_bar {text : List Char} (h : IsWhole text) :
    IsWhole ('\\' :: '|' :: text) := by
  intro escaped rest
  simp only [List.cons_append, barParts]
  simp [h false rest, Function.comp_def]

theorem isWhole_of_notMem {text : List Char} (h : '|' ∉ text) : IsWhole text := by
  induction text with
  | nil => exact isWhole_nil
  | cons c rest ih =>
      obtain ⟨hc, hrest⟩ := not_or.mp (mt List.mem_cons.mpr h)
      exact (ih hrest).cons (Ne.symm hc)

/-- A message is not divided, if each of its bars has a backslash in front. -/
theorem isWhole_escapeBars (message : List Char) : IsWhole (escapeBars message) := by
  induction message with
  | nil => exact isWhole_nil
  | cons c rest ih =>
      by_cases hc : c = '|'
      · subst hc
        exact ih.escaped_bar
      · rw [escapeBars, List.flatMap_cons, if_neg hc]
        exact ih.cons hc

/-- The first cell of a row is cut off. -/
theorem barParts_cell {text : String} (h : IsWhole text.toList) (rest : List Char) :
    barParts false ((cell text).toList ++ '|' :: rest) =
      (cell text).toList :: barParts false rest := by
  have hcut := h.cons (by decide : ' ' ≠ '|') false ('|' :: rest)
  simpa [cell, barParts] using hcut

/-- In a row of texts that are not divided, each text has a cell. -/
theorem barParts_cells {texts : List String} (h : ∀ text ∈ texts, IsWhole text.toList) :
    barParts false (String.join ((texts.map cell).map (· ++ "|"))).toList =
      (texts.map cell).map String.toList ++ [[]] := by
  induction texts with
  | nil => rfl
  | cons text rest ih =>
      obtain ⟨htext, hrest⟩ := List.forall_mem_cons.mp h
      simp only [List.map_cons, List.cons_append, ← ih hrest]
      rw [← barParts_cell htext, String.join_cons]
      simp

/-- The cells of a row are what is told about a problem. -/
theorem cells?_rowLine {p : Problem} (hkind : ∀ kind, p.kind = some kind → '|' ∉ kind.toList)
    (severity : Severity) : cells? (rowLine severity p) = some (problemCells severity p) := by
  have htexts : ∀ text ∈ problemTexts severity p, IsWhole text.toList := by
    refine forall_problemTexts ?_ (fun n => isWhole_of_notMem ?_) (isWhole_of_notMem (by decide))
      (fun kind hp => isWhole_of_notMem (hkind kind hp)) ?_ severity
    · exact fun severity => isWhole_of_notMem (by cases severity <;> decide)
    · exact Number.notMem_toString (by decide) n
    · rw [String.toList_ofList]
      exact isWhole_escapeBars _
  have hrow : barParts false (rowLine severity p).toList =
      [] :: ((problemCells severity p).map String.toList ++ [[]]) := by
    rw [problemCells, ← barParts_cells htexts, rowLine, String.toList_append]
    rfl
  rw [cells?, hrow]
  simp

theorem IsTabular.kind_without_bar (h : r.IsTabular) {x : Severity × Problem}
    (hx : x ∈ r.problems) : ∀ kind, x.2.kind = some kind → '|' ∉ kind.toList :=
  fun kind hkind => (h.kind x hx kind hkind).2

/-- A line that does not begin with a bar is not a row. -/
theorem cells?_eq_none {line : String} (h : line.toList.head? ≠ some '|') : cells? line = none := by
  rw [cells?]
  cases hline : line.toList with
  | nil => rfl
  | cons c rest =>
      have hc : c ≠ '|' := by simpa [hline] using h
      rw [barParts, if_neg (fun hbar => hc hbar.1)]
      cases barParts (c = '\\') rest <;> rfl

/-! ## The sections of a page -/

/-- A section is cut out where it begins and ends: its heading is one, and none of the lines below
is. -/
structure Section.IsSound (s : Section) : Prop where
  heading : isHeading s.heading = true
  body : ∀ l ∈ s.body, isHeading l = false

theorem cut_append {front : List String} (h : ∀ l ∈ front, isHeading l = false)
    (rest : List String) : cut (front ++ rest) = (front ++ (cut rest).1, (cut rest).2) := by
  induction front with
  | nil => rfl
  | cons l front ih =>
      obtain ⟨hl, hfront⟩ := List.forall_mem_cons.mp h
      rw [List.cons_append, cut, ih hfront]
      simp [hl]

/-- Sections that are put one behind another come back. -/
theorem cut_sections {sections : List Section} (h : ∀ s ∈ sections, s.IsSound) :
    cut (sections.flatMap Section.lines) = ([], sections) := by
  induction sections with
  | nil => rfl
  | cons s rest ih =>
      obtain ⟨hs, hrest⟩ := List.forall_mem_cons.mp h
      rw [List.flatMap_cons, Section.lines, List.cons_append, cut, if_pos hs.heading,
        cut_append hs.body, ih hrest, List.append_nil]

theorem isSound_sectionOf (r : Report) : (sectionOf r).IsSound where
  heading := by simp [sectionOf, isHeading]
  body := by
    have hcontent : ∀ l ∈ contentLines r, isHeading l = false :=
      forall_contentLines (by decide) (by decide) (by decide) fun x _ => by
        simp [rowLine, isHeading, List.isPrefixOf]
    have hempty : isHeading "" = false := by decide
    simpa [sectionOf, or_imp, forall_and, hempty] using hcontent

theorem isHeading_headLines (reports : List Report) :
    ∀ l ∈ headLines reports, isHeading l = false := by
  simp [headLines, totalsLine, isHeading, List.isPrefixOf]

/-- The sections of a page are those of the files. -/
theorem cut_pageLines (reports : List Report) :
    cut (pageLines reports) = (headLines reports, reports.map sectionOf) := by
  have hsound : ∀ s ∈ reports.map sectionOf, s.IsSound := by
    rw [List.forall_mem_map]
    exact fun r _ => isSound_sectionOf r
  rw [pageLines, ← List.flatMap_map, cut_append (isHeading_headLines reports),
    cut_sections hsound, List.append_nil]

/-- The section of a file tells its report. -/
theorem shows_sectionOf (h : r.IsTabular) : (sectionOf r).Shows r where
  heading := rfl
  body := by
    refine ⟨contentLines r, rfl, ?_⟩
    rw [contentLines]
    by_cases hr : r.errors = [] ∧ r.warnings = []
    · exact .inl ⟨hr.1, hr.2, by simp [isSpotless, hr.1, hr.2]⟩
    · have hspots : r.isSpotless = false := by simpa [isSpotless] using hr
      have hrows : (r.problems.map fun x => rowLine x.1 x.2).map cells? =
          (r.problems.map fun x => problemCells x.1 x.2).map some := by
        rw [List.map_map, List.map_map]
        exact List.map_congr_left fun x hx => cells?_rowLine (h.kind_without_bar hx) x.1
      have htable : r.tableCells = ["Severity", "Location", "Kind", "Message"].map cell ::
          ["---", "---", "---", "---"] :: r.problems.map fun x => problemCells x.1 x.2 := by
        simp [tableCells, problems, Function.comp_def]
      rw [hspots, htable]
      exact .inr ⟨hr, congrArg₂ List.cons rfl (congrArg₂ List.cons rfl hrows)⟩

/-! ## The totals of a page -/

theorem countP_isHeading (reports : List Report) :
    (pageLines reports).countP isHeading = reports.length := by
  have hsection : ∀ s : Section, s.IsSound → s.lines.countP isHeading = 1 := by
    intro s hs
    rw [Section.lines, List.countP_cons_of_pos hs.heading, Nat.add_eq_right, List.countP_eq_zero]
    exact fun l hl => by simp [hs.body l hl]
  have hhead : (headLines reports).countP isHeading = 0 := by
    rw [List.countP_eq_zero]
    exact fun l hl => by simp [isHeading_headLines reports l hl]
  rw [pageLines, List.countP_append, hhead, List.countP_flatMap]
  simp [Function.comp_def, hsection _ (isSound_sectionOf _)]

theorem isRowOf_eq_false {line : String} (h : line.toList.head? ≠ some '|') (severity : Severity) :
    isRowOf severity line = false := by
  rw [isRowOf, cells?_eq_none h]
  rfl

theorem isRowOf_rowLine {p : Problem} (hkind : ∀ kind, p.kind = some kind → '|' ∉ kind.toList)
    (severity severity' : Severity) :
    isRowOf severity (rowLine severity' p) = decide (severity' = severity) := by
  have hfirst : (some (problemCells severity' p)).bind List.head? = some (cell severity'.text) :=
    rfl
  rw [isRowOf, cells?_rowLine hkind, hfirst]
  cases severity <;> cases severity' <;> decide

/-- The head of a table is not counted, and each of its other rows is one for a problem. -/
theorem countP_isRowOf_content (h : r.IsTabular) (severity : Severity) :
    (contentLines r).countP (isRowOf severity) = r.problems.countP (·.1 = severity) := by
  rw [contentLines]
  split
  · next hspotless =>
      have hnone : r.errors = [] ∧ r.warnings = [] := by simpa [isSpotless] using hspotless
      rw [problems, hnone.1, hnone.2]
      cases severity <;> decide
  · have hhead : isRowOf severity "| Severity | Location | Kind | Message |" = false := by
      cases severity <;> decide
    have hrule : isRowOf severity "|---|---|---|---|" = false := by
      cases severity <;> decide
    rw [List.countP_cons_of_neg (by simp [hhead]), List.countP_cons_of_neg (by simp [hrule]),
      List.countP_map]
    refine List.countP_congr fun x hx => ?_
    exact Bool.eq_iff_iff.mp (isRowOf_rowLine (h.kind_without_bar hx) severity x.1)

/-- The rows of a section are those of the problems. -/
theorem countP_isRowOf_section (h : r.IsTabular) (severity : Severity) :
    (sectionOf r).lines.countP (isRowOf severity) = r.problems.countP (·.1 = severity) := by
  have hheading : isRowOf severity (sectionOf r).heading = false :=
    isRowOf_eq_false (by simp [sectionOf]) severity
  have hempty : isRowOf severity "" = false := isRowOf_eq_false (by decide) severity
  rw [Section.lines, List.countP_cons_of_neg (by simp [hheading]), sectionOf, List.cons_append,
    List.countP_cons_of_neg (by simp [hempty]), List.countP_append, countP_isRowOf_content h]
  simp [hempty]

/-- The page has as many rows for a severity as there are such problems. -/
theorem countP_isRowOf (h : ∀ r ∈ reports, r.IsTabular) (severity : Severity) :
    (pageLines reports).countP (isRowOf severity) =
      (reports.flatMap problems).countP (·.1 = severity) := by
  have hhead : (headLines reports).countP (isRowOf severity) = 0 := by
    rw [List.countP_eq_zero]
    have hno : ∀ l ∈ headLines reports, l.toList.head? ≠ some '|' := by
      simp [headLines, totalsLine]
    exact fun l hl => by simp [isRowOf_eq_false (hno l hl)]
  rw [pageLines, List.countP_append, hhead, Nat.zero_add, List.countP_flatMap,
    List.countP_flatMap]
  exact congrArg List.sum (List.map_congr_left fun r hr => countP_isRowOf_section (h r hr) severity)

/-- The numbers of errors and warnings count problems by their severity. -/
theorem countP_problems (reports : List Report) :
    (reports.flatMap problems).countP (·.1 = .error) = errorCount reports ∧
      (reports.flatMap problems).countP (·.1 = .warning) = warningCount reports := by
  rw [errorCount, warningCount, List.length_flatMap, List.length_flatMap, List.countP_flatMap,
    List.countP_flatMap]
  simp [problems, List.countP_map, Function.comp_def]

/-! ## What a page tells -/

/-- **A page tells what was found.**  Its lines are a title, a line with totals and a section for
each file, in order.  A section says that there are no problems, if there are none, and otherwise
has a table in which each problem has a row of four cells, the errors before the warnings.  And the
totals are the numbers of headings and rows on the page. -/
theorem page_shows_reports {reports : List Report} (h : ∀ r ∈ reports, r.IsTabular) :
    let page := lines (markdown reports)
    ∃ sections, cut page =
        (["# Project spec check report", "",
          totalsLine (page.countP isHeading) (page.countP (isRowOf .error))
            (page.countP (isRowOf .warning)), ""], sections) ∧
      List.Forall₂ Section.Shows sections reports := by
  intro page
  have hpage : page = pageLines reports := lines_markdown h
  refine ⟨reports.map sectionOf, ?_, ?_⟩
  · rw [hpage, cut_pageLines, countP_isHeading, countP_isRowOf h, countP_isRowOf h,
      (countP_problems reports).1, (countP_problems reports).2, headLines]
  · rw [List.forall₂_map_left_iff, List.forall₂_same]
    exact fun r hr => shows_sectionOf (h r hr)

/-- Two files, one of them without problems.  In the messages of the other one there are bars at
either end, next to each other and behind backslashes, and a backslash at the end. -/
def barReports : List Report :=
  [⟨.ofString "a.yml",
      [⟨"|one||two|", some 12, none, none, some "schema"⟩,
        ⟨"C:\\|three\\", none, none, none, none⟩],
      [.ofKind "lint" "||"]⟩,
    .empty (.ofString "b.yml")]

/-- Whatever bars and backslashes there are in messages, the page is read as it was meant. -/
theorem bars_are_told :
    (∀ r ∈ barReports, r.IsTabular) ∧
      ∃ sections, cut (lines (markdown barReports)) =
          (["# Project spec check report", "", "Checked 2 spec files: 2 errors, 1 warning.", ""],
            sections) ∧
        List.Forall₂ Section.Shows sections barReports := by
  have htabular : ∀ r ∈ barReports, r.IsTabular := by
    simp only [barReports, List.forall_mem_cons]
    refine ⟨⟨by decide, by decide, ?_⟩, ⟨by decide, by decide, by simp [problems, empty]⟩, by simp⟩
    intro x hx kind hkind
    simp only [problems, Problem.ofKind, List.map_cons, List.map_nil, List.cons_append,
      List.nil_append, List.mem_cons, List.not_mem_nil, or_false] at hx
    rcases hx with rfl | rfl | rfl
    · exact Option.some.inj hkind ▸ by decide
    · cases hkind
    · exact Option.some.inj hkind ▸ by decide
  have htotals : totalsLine ((lines (markdown barReports)).countP isHeading)
      ((lines (markdown barReports)).countP (isRowOf .error))
      ((lines (markdown barReports)).countP (isRowOf .warning)) =
        "Checked 2 spec files: 2 errors, 1 warning." := by
    rw [lines_markdown htabular, countP_isHeading, countP_isRowOf htabular,
      countP_isRowOf htabular]
    decide +kernel
  refine ⟨htabular, ?_⟩
  rw [← htotals]
  exact page_shows_reports htabular

end BuildSpec.Report
