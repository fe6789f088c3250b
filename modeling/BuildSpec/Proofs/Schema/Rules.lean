import BuildSpec.Proofs.Except
import BuildSpec.Schema.Issue

/-!
# What the rules of a schema demand

A schema check goes down into a value level by level, and along references within a level; both
journeys are counted, so that the check ends.  `Accepts` says that a check finds no issue and that
it was allowed to go down as far as the value is deep.  Then the counting can be forgotten, and each
rule can be read off as a demand on the value and on its parts:

* `accepts_kinds`, `accepts_oneOf`, `accepts_required` — demands on the value itself;
* `accepts_properties`, `accepts_otherProperties`, `accepts_items` — demands on its parts;
* `accepts_anyOf`, `accepts_reference` — demands of another schema on the same value;
* `accepts_of_issues_eq_nil` — where a check without issues starts.
-/

namespace BuildSpec

/-- A value under a text key stands in an entry of the mapping. -/
theorem Value.exists_mem_of_field? {entries : Entries} {key : String} {v : Value}
    (h : Value.field? entries key = some v) : ∃ k, (k, v) ∈ entries := by
  obtain ⟨e, he, rfl⟩ := Option.map_eq_some_iff.mp h
  exact ⟨e.1, List.mem_of_find?_eq_some he⟩

namespace Schema

/-! ## Depth -/

theorem depth_pos (v : Value) : 0 < depth v := by
  cases v <;> simp [depth]

theorem depth_le_itemsDepth {items : List Value} {item : Value} (h : item ∈ items) :
    depth item ≤ itemsDepth items := by
  induction items with
  | nil => cases h
  | cons first rest ih =>
      rw [itemsDepth]
      rcases List.mem_cons.mp h with rfl | h
      · exact Nat.le_max_left _ _
      · exact Nat.le_trans (ih h) (Nat.le_max_right _ _)

theorem depth_le_entriesDepth {entries : Entries} {e : Value × Value} (h : e ∈ entries) :
    depth e.2 ≤ entriesDepth entries := by
  induction entries with
  | nil => cases h
  | cons first rest ih =>
      rw [entriesDepth]
      rcases List.mem_cons.mp h with rfl | h
      · exact Nat.le_max_left _ _
      · exact Nat.le_trans (ih h) (Nat.le_max_right _ _)

/-- An item is less deep than its list. -/
theorem depth_lt_of_mem_items {items : List Value} {item : Value} (h : item ∈ items) :
    depth item < depth (.list items) := by
  have hle := depth_le_itemsDepth h
  simp only [depth]
  omega

/-- A value is less deep than its mapping. -/
theorem depth_lt_of_mem_entries {entries : Entries} {e : Value × Value} (h : e ∈ entries) :
    depth e.2 < depth (.map entries) := by
  have hle := depth_le_entriesDepth h
  simp only [depth]
  omega

/-! ## No issues -/

/-- Looking at several things finds nothing if none of them has an issue. -/
theorem Findings.ofAll_eq_nil_iff {α : Type} {items : List α} {f : α → Findings} :
    Findings.ofAll items f = .ok [] ↔ ∀ a ∈ items, f a = .ok [] := by
  have hcons : ∀ (a : α) (rest : List α), Findings.ofAll (a :: rest) f =
      (do return (← f a) ++ (← Findings.ofAll rest f)) := by
    intro a rest
    simp only [Findings.ofAll, List.mapM_cons]
    cases f a with
    | error fault => rfl
    | ok issues => cases rest.mapM f <;> rfl
  induction items with
  | nil => simp [Findings.ofAll, pure, Except.pure, Functor.map, Except.map]
  | cons a rest ih =>
      rw [hcons, bind_eq_ok_iff]
      simp only [bind_eq_ok_iff, List.forall_mem_cons, ← ih, pure, Except.pure, Except.ok.injEq,
        List.append_eq_nil_iff]
      constructor
      · rintro ⟨_, ha, _, hrest, rfl, rfl⟩
        exact ⟨ha, hrest⟩
      · rintro ⟨ha, hrest⟩
        exact ⟨[], ha, [], hrest, rfl, rfl⟩

namespace Scope

variable {scope : Scope}

/-- An issue is one. -/
theorem issue_ne_nil (v : Value) (message : String → String) : issue v message ≠ .ok [] := by
  unfold issue
  cases v.writeShown <;> simp [bind, Except.bind, pure, Except.pure]

theorem issuesAt_eq_nil_iff {token : String} {rules : List Rule} {v : Value} :
    scope.issuesAt token rules v = .ok [] ↔ scope.part rules v = .ok [] := by
  unfold issuesAt
  cases scope.part rules v with
  | error fault => simp [bind, Except.bind]
  | ok issues => split <;> simp [bind, Except.bind, pure, Except.pure]

theorem issuesUnder_eq_nil_iff {key : Value} {rules : List Rule} {v : Value} :
    scope.issuesUnder key rules v = .ok [] ↔ scope.part rules v = .ok [] := by
  unfold issuesUnder
  cases scope.part rules v with
  | error fault => simp [bind, Except.bind]
  | ok issues =>
      cases issues with
      | nil => simp [bind, Except.bind, pure, Except.pure]
      | cons issue issues =>
          simp only [bind, Except.bind, pure, Except.pure]
          cases key.writePlain with
          | error fault => split <;> split <;> simp
          | ok token => split <;> split <;> simp

theorem rulesIssues_cons_eq_nil_iff {v : Value} {rule : Rule} {rest : List Rule} :
    scope.rulesIssues v (rule :: rest) = .ok [] ↔
      scope.ruleIssues v rule = .ok [] ∧ scope.rulesIssues v rest = .ok [] := by
  rw [rulesIssues, bind_eq_ok_iff]
  simp only [bind_eq_ok_iff, pure, Except.pure, Except.ok.injEq, List.append_eq_nil_iff]
  constructor
  · rintro ⟨_, hrule, _, hrest, rfl, rfl⟩
    exact ⟨hrule, hrest⟩
  · rintro ⟨hrule, hrest⟩
    exact ⟨[], hrule, [], hrest, rfl, rfl⟩

theorem rulesIssues_singleton_eq_nil_iff {v : Value} {rule : Rule} :
    scope.rulesIssues v [rule] = .ok [] ↔ scope.ruleIssues v rule = .ok [] := by
  rw [rulesIssues_cons_eq_nil_iff]
  simp [rulesIssues]

/-- A value obeys one of several schemas only if it obeys a certain one of them. -/
theorem exists_of_someHolds {v : Value} {options : List (List Rule)}
    (h : scope.someHolds v options = .ok true) :
    ∃ rules ∈ options, scope.rulesIssues v rules = .ok [] := by
  induction options with
  | nil => simp [someHolds] at h
  | cons rules rest ih =>
      rw [someHolds, bind_eq_ok_iff] at h
      obtain ⟨issues, hissues, h⟩ := h
      cases issues with
      | nil => exact ⟨rules, List.mem_cons_self, hissues⟩
      | cons issue issues =>
          obtain ⟨found, hmem, hfound⟩ := ih (by simpa using h)
          exact ⟨found, List.mem_cons_of_mem _ hmem, hfound⟩

end Scope

namespace Document

variable {document : Document}

/-- How a check looks at the rules for a value if it may go down a number of levels below it, and
may follow a number of references one after another. -/
def scopeAt (document : Document) (levels hops : Nat) : Scope where
  edition := document.edition
  follow target v :=
    match document.targets.lookup target with
    | some rules => document.issuesWithin (document.issuesTo levels) hops rules v
    | none => .ok []
  part := document.issuesTo levels

/-- A value has no issue under some rules, while a number of references may be followed and the
check goes down as far as the value is deep. -/
def Accepts (document : Document) (hops : Nat) (rules : List Rule) (v : Value) : Prop :=
  ∃ levels, depth v ≤ levels + 1 ∧ (document.scopeAt levels hops).rulesIssues v rules = .ok []

variable {hops : Nat} {v : Value}

/-- A part of a value that is checked at the next level is checked as far as it is deep. -/
theorem accepts_of_part {levels : Nat} {rules : List Rule} {part : Value}
    (hdepth : depth v ≤ levels + 1) (hpart : depth part < depth v)
    (h : document.issuesTo levels rules part = .ok []) :
    document.Accepts document.targets.length rules part := by
  -- a check that has no level left finds nothing, but no part is so deep down
  have hpos := depth_pos part
  obtain ⟨below, rfl⟩ : ∃ below, levels = below + 1 := ⟨levels - 1, by omega⟩
  exact ⟨below, by omega, h⟩

theorem accepts_cons {rule : Rule} {rest : List Rule} (h : document.Accepts hops (rule :: rest) v) :
    document.Accepts hops [rule] v ∧ document.Accepts hops rest v := by
  obtain ⟨levels, hdepth, h⟩ := h
  rw [Scope.rulesIssues_cons_eq_nil_iff] at h
  exact ⟨⟨levels, hdepth, Scope.rulesIssues_singleton_eq_nil_iff.mpr h.1⟩, levels, hdepth, h.2⟩

theorem exists_of_accepts_rule {rule : Rule} (h : document.Accepts hops [rule] v) :
    ∃ levels, depth v ≤ levels + 1 ∧ (document.scopeAt levels hops).ruleIssues v rule = .ok [] := by
  obtain ⟨levels, hdepth, h⟩ := h
  exact ⟨levels, hdepth, Scope.rulesIssues_singleton_eq_nil_iff.mp h⟩

/-- The value is of one of the kinds. -/
theorem accepts_kinds {words : List String} (h : document.Accepts hops [.kinds words] v) :
    words.any (isKind document.edition · v) = true := by
  obtain ⟨levels, -, h⟩ := exists_of_accepts_rule h
  rw [Scope.ruleIssues] at h
  split at h
  · next hany => exact hany
  · exact absurd h (Scope.issue_ne_nil _ _)

/-- The value is one of the values. -/
theorem accepts_oneOf {values : List Value} (h : document.Accepts hops [.oneOf values] v) :
    values.any (Value.equalData · v) = true := by
  obtain ⟨levels, -, h⟩ := exists_of_accepts_rule h
  rw [Scope.ruleIssues] at h
  by_cases hany : values.any (Value.equalData · v) = true
  · exact hany
  · rw [if_neg hany, bind_eq_ok_iff] at h
    obtain ⟨choice, -, h⟩ := h
    exact absurd h (Scope.issue_ne_nil _ _)

/-- A mapping has the keys. -/
theorem accepts_required {names : List String} {entries : Entries}
    (h : document.Accepts hops [.required names] (.map entries)) :
    ∀ name ∈ names, Value.hasField entries name = true := by
  obtain ⟨levels, -, h⟩ := exists_of_accepts_rule h
  simpa [Scope.ruleIssues] using h

/-- The declared parts of a mapping obey their schemas. -/
theorem accepts_properties {fields : List (String × List Rule)} {entries : Entries}
    (h : document.Accepts hops [.properties fields] (.map entries)) :
    ∀ f ∈ fields, ∀ part, Value.field? entries f.1 = some part →
      document.Accepts document.targets.length f.2 part := by
  obtain ⟨levels, hdepth, h⟩ := exists_of_accepts_rule h
  rw [Scope.ruleIssues, Findings.ofAll_eq_nil_iff] at h
  intro f hf part hpart
  have hissues := h f hf
  simp only [Scope.entriesOf, hpart, Scope.issuesAt_eq_nil_iff] at hissues
  obtain ⟨key, hmem⟩ := Value.exists_mem_of_field? hpart
  exact accepts_of_part hdepth (depth_lt_of_mem_entries hmem) hissues

/-- If no part of a mapping is declared, all of them obey the schema for the others. -/
theorem accepts_otherProperties {rules : List Rule} {entries : Entries}
    (h : document.Accepts hops [.otherProperties [] rules] (.map entries)) :
    ∀ e ∈ entries, document.Accepts document.targets.length rules e.2 := by
  obtain ⟨levels, hdepth, h⟩ := exists_of_accepts_rule h
  rw [Scope.ruleIssues, Findings.ofAll_eq_nil_iff] at h
  intro e he
  have hissues := h e he
  have hother : Scope.isOther [] e.1 = true := by
    unfold Scope.isOther
    split <;> rfl
  simp only [hother, if_true, Scope.issuesUnder_eq_nil_iff] at hissues
  exact accepts_of_part hdepth (depth_lt_of_mem_entries he) hissues

/-- The items of a list obey the schema for items. -/
theorem accepts_items {rules : List Rule} {items : List Value}
    (h : document.Accepts hops [.items rules] (.list items)) :
    ∀ item ∈ items, document.Accepts document.targets.length rules item := by
  obtain ⟨levels, hdepth, h⟩ := exists_of_accepts_rule h
  rw [Scope.ruleIssues, Findings.ofAll_eq_nil_iff] at h
  intro item hitem
  obtain ⟨i, hi⟩ := List.mem_iff_getElem?.mp hitem
  have hissues := h (item, i) (List.mem_zipIdx_iff_getElem?.mpr hi)
  simp only [Scope.issuesAt_eq_nil_iff] at hissues
  exact accepts_of_part hdepth (depth_lt_of_mem_items hitem) hissues

/-- The value obeys one of the schemas. -/
theorem accepts_anyOf {options : List (List Rule)} (h : document.Accepts hops [.anyOf options] v) :
    ∃ rules ∈ options, document.Accepts hops rules v := by
  obtain ⟨levels, hdepth, h⟩ := exists_of_accepts_rule h
  rw [Scope.ruleIssues, bind_eq_ok_iff] at h
  obtain ⟨holds, hholds, h⟩ := h
  cases holds with
  | false => exact absurd (by simpa using h) (Scope.issue_ne_nil _ _)
  | true =>
      obtain ⟨rules, hmem, hrules⟩ := Scope.exists_of_someHolds hholds
      exact ⟨rules, hmem, levels, hdepth, hrules⟩

/-- Of two schemas, the value obeys one. -/
theorem accepts_anyOf_pair {rules others : List Rule}
    (h : document.Accepts hops [.anyOf [rules, others]] v) :
    document.Accepts hops rules v ∨ document.Accepts hops others v := by
  obtain ⟨obeyed, hmem, haccepts⟩ := accepts_anyOf h
  simp only [List.mem_cons, List.not_mem_nil, or_false] at hmem
  rcases hmem with rfl | rfl
  · exact Or.inl haccepts
  · exact Or.inr haccepts

/-- The value obeys the schema that a reference leads to. -/
theorem accepts_reference {target : String} {rules : List Rule}
    (htarget : document.targets.lookup target = some rules)
    (h : document.Accepts (hops + 1) [.reference target] v) : document.Accepts hops rules v := by
  obtain ⟨levels, hdepth, h⟩ := exists_of_accepts_rule h
  simp only [Scope.ruleIssues, scopeAt, htarget] at h
  exact ⟨levels, hdepth, h⟩

/-- A check of data that finds no issue accepts the data. -/
theorem accepts_of_issues_eq_nil {entries : Entries}
    (h : document.issues (.map entries) = .ok []) :
    document.Accepts document.targets.length document.rules (.map entries) := by
  unfold issues at h
  cases hraw : document.rawIssues (.map entries) with
  | error fault => simp [hraw, Functor.map, Except.map] at h
  | ok raw =>
      have hsorted : raw.mergeSort Issue.notAfter = [] := by
        simpa [hraw, Functor.map, Except.map] using h
      have hnil : raw = [] := by
        have hlength : (raw.mergeSort Issue.notAfter).length = raw.length :=
          List.length_mergeSort raw
        rw [hsorted] at hlength
        exact List.eq_nil_of_length_eq_zero hlength.symm
      subst hnil
      have hpos := depth_pos (.map entries)
      obtain ⟨levels, hlevels⟩ : ∃ levels, depth (.map entries) = levels + 1 :=
        ⟨depth (.map entries) - 1, by omega⟩
      rw [rawIssues, hlevels] at hraw
      exact ⟨levels, by omega, hraw⟩

end Document

end Schema

end BuildSpec
