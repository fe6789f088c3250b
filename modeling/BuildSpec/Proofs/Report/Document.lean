import BuildSpec.Proofs.Text.Json
import BuildSpec.Report.Document
import Mathlib.Data.List.Forall2

/-!
# Reading a report as a document

A report that is written as a JSON document is plain ASCII, and whoever reads the document is told
all that the report holds and nothing else:

* `isToldBy_document` — a problem has a member for all that is known about it, and no other ones;
* `IsToldBy.unique` — so a problem and a report can be told from their documents;
* `json_is_read_back` — the text of a list of reports is read back, and the totals in it count what
  is read.
-/

namespace BuildSpec

open Text

/-- The member of an object under a name. -/
def Text.Json.member? (name : String) : Json → Option Json
  | .object members => members.lookup name
  | _ => none

/-- A document tells a problem: its members are what is known about the problem, each under its own
name and in a fixed order. -/
structure Problem.IsToldBy (p : Problem) (j : Json) : Prop where
  names : ∃ members, j = .object members ∧
    (members.map Prod.fst).Sublist ["message", "line", "column", "yaml_path", "kind"]
  message : j.member? "message" = some (.text p.message)
  line : j.member? "line" = p.line.map .number
  column : j.member? "column" = p.column.map .number
  pointer : j.member? "yaml_path" = p.pointer.map .text
  kind : j.member? "kind" = p.kind.map .text

/-- The items of the array that an object has under a name. -/
def Report.entries (name : String) (j : Json) : List Json :=
  match j.member? name with
  | some (.array items) => items
  | _ => []

/-- A document tells a report: it has the name of the file and the two lists of problems. -/
structure Report.IsToldBy (r : Report) (j : Json) : Prop where
  members : ∃ errors warnings, j = .object [("file", .text r.file.text),
    ("errors", .array errors), ("warnings", .array warnings)]
  errors : List.Forall₂ Problem.IsToldBy r.errors (Report.entries "errors" j)
  warnings : List.Forall₂ Problem.IsToldBy r.warnings (Report.entries "warnings" j)

/-! ## One problem -/

namespace Problem

/-- What is known is found under its name, and under no other one. -/
theorem lookup_member? {α : Type} (name key : String) (write : α → Json) (x : Option α) :
    (member? name write x).lookup key = if key = name then x.map write else none := by
  cases x with
  | none => simp [member?]
  | some x =>
      by_cases hkey : key = name
      · simp [member?, hkey]
      · simp [member?, List.lookup_cons, hkey, beq_false_of_ne hkey]

theorem names_member? {α : Type} (name : String) (write : α → Json) (x : Option α) :
    ((member? name write x).map Prod.fst).Sublist [name] := by
  cases x with
  | none => exact List.nil_sublist _
  | some x => exact List.Sublist.refl _

/-- **The document of a problem tells it.** -/
theorem isToldBy_document (p : Problem) : p.IsToldBy p.document where
  names := by
    refine ⟨_, rfl, ?_⟩
    simp only [List.map_append, List.map_cons]
    exact ((((List.Sublist.refl ["message"]).append (names_member? "line" _ _)).append
      (names_member? "column" _ _)).append (names_member? "yaml_path" _ _)).append
        (names_member? "kind" _ _)
  message := by simp [document, Json.member?]
  line := by
    simp [document, Json.member?, List.lookup_append, List.lookup_cons, lookup_member?]
  column := by
    simp [document, Json.member?, List.lookup_append, List.lookup_cons, lookup_member?]
  pointer := by
    simp [document, Json.member?, List.lookup_append, List.lookup_cons, lookup_member?]
  kind := by
    simp [document, Json.member?, List.lookup_append, List.lookup_cons, lookup_member?]

/-- A problem can be told from its document. -/
theorem IsToldBy.unique {p q : Problem} {j : Json} (hp : p.IsToldBy j) (hq : q.IsToldBy j) :
    p = q := by
  have hmessage := hp.message.symm.trans hq.message
  have hline := hp.line.symm.trans hq.line
  have hcolumn := hp.column.symm.trans hq.column
  have hpointer := hp.pointer.symm.trans hq.pointer
  have hkind := hp.kind.symm.trans hq.kind
  have hnumber : Function.Injective Json.number := fun _ _ h => Json.number.inj h
  have htext : Function.Injective Json.text := fun _ _ h => Json.text.inj h
  cases p
  cases q
  rw [Problem.mk.injEq]
  exact ⟨htext (Option.some.inj hmessage), Option.map_injective hnumber hline,
    Option.map_injective hnumber hcolumn, Option.map_injective htext hpointer,
    Option.map_injective htext hkind⟩

end Problem

namespace Report

/-! ## Reports -/

/-- The document of a report tells it. -/
theorem isToldBy_document (r : Report) : r.IsToldBy r.document where
  members := ⟨_, _, rfl⟩
  errors := by
    change List.Forall₂ Problem.IsToldBy r.errors (r.errors.map Problem.document)
    rw [List.forall₂_map_right_iff, List.forall₂_same]
    exact fun p _ => p.isToldBy_document
  warnings := by
    change List.Forall₂ Problem.IsToldBy r.warnings (r.warnings.map Problem.document)
    rw [List.forall₂_map_right_iff, List.forall₂_same]
    exact fun p _ => p.isToldBy_document

/-- What a document tells of a report: the name of the file as text, and the problems. -/
def contents (r : Report) : String × List Problem × List Problem :=
  (r.file.text, r.errors, r.warnings)

/-- A report can be told from its document. -/
theorem IsToldBy.unique {r s : Report} {j : Json} (hr : r.IsToldBy j) (hs : s.IsToldBy j) :
    r.contents = s.contents := by
  obtain ⟨_, _, hj⟩ := hr.members
  obtain ⟨_, _, hj'⟩ := hs.members
  have hproblems : Relator.LeftUnique Problem.IsToldBy := fun _ _ _ hp hq => hp.unique hq
  have herrors : r.errors = s.errors := List.left_unique_forall₂' hproblems hr.errors hs.errors
  have hwarnings : r.warnings = s.warnings :=
    List.left_unique_forall₂' hproblems hr.warnings hs.warnings
  have hfile : r.file.text = s.file.text := by
    have hboth := hj.symm.trans hj'
    simp only [Json.object.injEq, List.cons.injEq, Prod.mk.injEq, Json.text.injEq] at hboth
    exact hboth.1.2
  rw [contents, contents, herrors, hwarnings, hfile]

/-- Reports have the same documents exactly if they have the same contents. -/
theorem document_eq_iff {r s : Report} : r.document = s.document ↔ r.contents = s.contents := by
  constructor
  · intro h
    exact (h ▸ isToldBy_document r : r.IsToldBy s.document).unique (isToldBy_document s)
  · intro h
    simp only [contents, Prod.mk.injEq] at h
    rw [document, document, h.1, h.2.1, h.2.2]

/-- Two functions have the same values on two lists if they do so on each pair. -/
theorem map_eq_map_iff_forall₂ {α : Type} {f : Report → α} {reports reports' : List Report} :
    reports.map f = reports'.map f ↔ List.Forall₂ (fun r s => f r = f s) reports reports' := by
  have heq : ∀ xs ys : List α, xs = ys ↔ List.Forall₂ (· = ·) xs ys := by
    intro xs ys
    rw [List.forall₂_eq_eq_eq]
  rw [heq, List.forall₂_map_left_iff, List.forall₂_map_right_iff]

theorem map_document_eq_iff {reports reports' : List Report} :
    reports.map document = reports'.map document ↔
      reports.map contents = reports'.map contents := by
  rw [map_eq_map_iff_forall₂, map_eq_map_iff_forall₂]
  simp only [document_eq_iff]

/-- The totals count the entries of the documents. -/
theorem summary_eq (reports : List Report) :
    summary reports = .object [("files", .number (reports.map document).length),
      ("errors", .number ((reports.map document).flatMap (entries "errors")).length),
      ("warnings", .number ((reports.map document).flatMap (entries "warnings")).length),
      ("results", .array (reports.map document))] := by
  have herrors : ∀ r : Report, entries "errors" r.document = r.errors.map Problem.document :=
    fun _ => rfl
  have hwarnings : ∀ r : Report, entries "warnings" r.document = r.warnings.map Problem.document :=
    fun _ => rfl
  simp [summary, errorCount, warningCount, List.flatMap_map, List.length_flatMap, herrors,
    hwarnings]

theorem summary_eq_iff {reports reports' : List Report} :
    summary reports = summary reports' ↔ reports.map contents = reports'.map contents := by
  rw [← map_document_eq_iff]
  constructor
  · intro h
    simp only [summary, Json.object.injEq, List.cons.injEq, Prod.mk.injEq, Json.array.injEq] at h
    exact h.2.2.2.1.2
  · intro h
    rw [summary_eq, summary_eq, h]

/-- The text of some reports is read back, also if white space follows. -/
theorem read?_json (reports : List Report) (blank : String)
    (h : blank.toList.all Json.isSpace = true) :
    Json.read? (json reports ++ blank) = some (summary reports) :=
  Json.read?_render (summary reports) blank h

theorem json_ne_empty (reports : List Report) : json reports ≠ "" := by
  intro hempty
  have hread := read?_json reports "" rfl
  rw [hempty] at hread
  cases hread

/-- Reports have the same text exactly if they have the same contents. -/
theorem json_eq_iff {reports reports' : List Report} :
    json reports = json reports' ↔ reports.map contents = reports'.map contents := by
  rw [← summary_eq_iff]
  constructor
  · intro h
    have hread := read?_json reports "" rfl
    rw [h, read?_json reports' "" rfl] at hread
    exact (Option.some.inj hread).symm
  · intro h
    rw [json, json, h]

/-- **A report is read back from its document.**  Let the reports on some files be put together from
problems found one after another.  The text is plain ASCII, and it is read as an object that has, in
order, a result for each file, with the errors and the warnings of the file in the order in which
they were found, and with totals that count the results and their entries.  And two lists of reports
have the same text exactly if they have the same contents. -/
theorem json_is_read_back (runs : List (Path × List (Severity × Problem))) :
    let text := json (runs.map fun (file, problems) => ofList file problems)
    Json.IsAscii text.toList ∧
      (∃ results : List Json,
        Json.read? text = some (.object [("files", .number results.length),
          ("errors", .number (results.flatMap (entries "errors")).length),
          ("warnings", .number (results.flatMap (entries "warnings")).length),
          ("results", .array results)]) ∧
        List.Forall₂ (fun (file, problems) => IsToldBy
          ⟨file, (problems.filter (·.1 = .error)).map Prod.snd,
            (problems.filter (·.1 = .warning)).map Prod.snd⟩) runs results) ∧
      ∀ reports, json reports = text ↔ reports.map contents =
        (runs.map fun (file, problems) => ofList file problems).map contents := by
  intro text
  have hread := read?_json (runs.map fun (file, problems) => ofList file problems) "" rfl
  rw [summary_eq, String.append_empty] at hread
  refine ⟨?_, ⟨_, hread, ?_⟩, fun reports => json_eq_iff⟩
  · rw [show text.toList = _ from String.toList_ofList]
    exact Json.isAscii_write _ 0
  · simp only [List.map_map, List.forall₂_map_right_iff, List.forall₂_same]
    rintro ⟨file, problems⟩ -
    rw [Function.comp_apply, ← ofList_eq]
    exact isToldBy_document _

end Report

end BuildSpec
