import BuildSpec.Proofs.Number.Numeral
import BuildSpec.Proofs.Text.Lines
import BuildSpec.Report.Plain

/-!
# Commands and lines

A workflow reads a report line by line, and each problem should be one command.  The head of a
command names the kind of problem, the file and the line; the message follows as it is, with line
feeds and all:

* `workflow_parts` — a problem takes the lines of its own command, of which the first one has the
  head;
* `workflow_lines` — so there is one line for each problem exactly if no line feeds are told;
* `broken_message_is_two_commands` — a message may even look like several commands.
-/

namespace BuildSpec.Report

open Text (lines parts)

/-- A problem that is told, with its file. -/
structure Notice where
  file : Path
  severity : Severity
  problem : Problem

namespace Notice

/-- What a command begins with; a problem without a line is put on the first one. -/
def head (n : Notice) : String :=
  "::" ++ n.severity.text ++ " file=" ++ n.file.text ++ ",line="
    ++ toString (n.problem.line.getD 1) ++ "::"

/-- No line feed is told: there is none in the name of the file and none in the message. -/
def IsOneLine (n : Notice) : Prop :=
  '\n' ∉ n.file.text.toList ∧ '\n' ∉ n.problem.message.toList

end Notice

/-- The problems in some reports: of each report the errors, then the warnings. -/
def notices (reports : List Report) : List Notice :=
  reports.flatMap fun r =>
    r.errors.map (⟨r.file, .error, ·⟩) ++ r.warnings.map (⟨r.file, .warning, ·⟩)

/-- Commands consist of a head and the message as it is. -/
theorem commands_eq (reports : List Report) :
    reports.flatMap commands = (notices reports).map fun n => n.head ++ n.problem.message := by
  rw [notices, List.map_flatMap]
  refine List.flatMap_congr fun r _ => ?_
  simp [commands, problems, command, Notice.head, Function.comp_def]

/-- The head of a command is on one line unless the name of the file is not. -/
theorem notMem_head_iff {n : Notice} : '\n' ∉ n.head.toList ↔ '\n' ∉ n.file.text.toList := by
  have hseverity : '\n' ∉ n.severity.text.toList := by
    cases n.severity <;> decide
  have hline : '\n' ∉ (toString (n.problem.line.getD 1)).toList :=
    Number.notMem_toString (by decide) _
  simp only [Notice.head, String.toList_append, List.mem_append, hseverity, hline]
  simp

theorem isOneLine_iff {n : Notice} :
    n.IsOneLine ↔ '\n' ∉ (n.head ++ n.problem.message).toList := by
  rw [Notice.IsOneLine, ← notMem_head_iff, String.toList_append, List.mem_append, not_or]

/-- A problem takes the lines of its own command. -/
theorem workflow_parts {reports : List Report} (hsome : notices reports ≠ []) :
    parts '\n' (workflow reports) =
      (notices reports).flatMap fun n => parts '\n' (n.head ++ n.problem.message) := by
  rw [workflow, commands_eq, Text.parts_intercalate (by simpa using hsome), List.flatMap_map]

/-- Of the lines of a command, the first one has the head; the others are those of the message. -/
theorem parts_command {n : Notice} (hfile : '\n' ∉ n.file.text.toList) :
    ∃ first rest, parts '\n' n.problem.message = first :: rest ∧
      parts '\n' (n.head ++ n.problem.message) = (n.head ++ first) :: rest := by
  obtain ⟨first, rest, hparts⟩ :=
    List.exists_cons_of_ne_nil (Text.parts_ne_nil '\n' n.problem.message)
  exact ⟨first, rest, hparts, Text.parts_append_of_notMem (notMem_head_iff.mpr hfile) hparts⟩

/-- **Which reports have one line for each problem.**  The lines of a report are the commands of its
problems, in order, exactly if no line feed is told.  Otherwise a problem takes all lines of its
command; if the name of its file is on one line, these are the lines of the message, the first of
them behind the head. -/
theorem workflow_lines (reports : List Report) :
    (lines (workflow reports) = (notices reports).map (fun n => n.head ++ n.problem.message) ↔
        ∀ n ∈ notices reports, n.IsOneLine) ∧
      (notices reports ≠ [] → parts '\n' (workflow reports) =
        (notices reports).flatMap fun n => parts '\n' (n.head ++ n.problem.message)) ∧
      ∀ n ∈ notices reports, '\n' ∉ n.file.text.toList →
        ∃ first rest, parts '\n' n.problem.message = first :: rest ∧
          parts '\n' (n.head ++ n.problem.message) = (n.head ++ first) :: rest := by
  refine ⟨?_, workflow_parts, fun n _ => parts_command⟩
  have hne : "" ∉ (notices reports).map fun n => n.head ++ n.problem.message := by
    intro hmem
    obtain ⟨n, -, hempty⟩ := List.mem_map.mp hmem
    have hchars := congrArg String.toList hempty
    simp [Notice.head] at hchars
  rw [workflow, commands_eq, Text.lines_intercalate_eq_iff hne, List.forall_mem_map]
  exact forall₂_congr fun n _ => isOneLine_iff.symm

/-- A report of one problem whose message has two lines, the second of which looks like a
command. -/
def brokenReport : Report :=
  ⟨.ofString "project.yml",
    [.ofKind "schema" "first\n::error file=project.yml,line=1::second"], []⟩

/-- The lines of the message follow the head of the command. -/
theorem broken_message_follows_head :
    ∃ first rest,
      parts '\n' "first\n::error file=project.yml,line=1::second" = first :: rest ∧
      parts '\n' (workflow [brokenReport]) =
        ("::error file=project.yml,line=1::" ++ first) :: rest := by
  obtain ⟨-, hparts, hcommand⟩ := workflow_lines [brokenReport]
  obtain ⟨first, rest, hmessage, hlines⟩ :=
    hcommand ⟨brokenReport.file, .error, _⟩ List.mem_cons_self (by decide)
  refine ⟨first, rest, hmessage, ?_⟩
  rw [hparts (List.cons_ne_nil _ _)]
  exact (List.flatMap_singleton ..).trans hlines

/-- One problem is told on two lines, just as two problems would be. -/
theorem broken_message_is_two_commands :
    (notices [brokenReport]).length = 1 ∧
      lines (workflow [brokenReport]) =
        ["::error file=project.yml,line=1::first", "::error file=project.yml,line=1::second"] ∧
      workflow [brokenReport] =
        workflow [⟨.ofString "project.yml",
          [.ofKind "schema" "first", .ofKind "schema" "second"], []⟩] := by
  refine ⟨rfl, ?_, ?_⟩
  · decide +kernel
  · decide +kernel

end BuildSpec.Report
