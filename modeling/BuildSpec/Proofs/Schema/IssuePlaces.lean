import BuildSpec.Proofs.Except
import BuildSpec.Proofs.Value.Element
import BuildSpec.Schema.Issue

/-!
# Where schema issues stand

The path of an issue is built up from the part of the data that breaks a rule, step by step outward.
It leads back to that part, or to the part around it if there should be no such part at all:

* `StandIn` — all issues that are found in a value are told of elements of it;
* `standIn_ruleIssues` — every rule finds such issues, if the rules for parts do;
* `issues_are_told` — so does a schema;
* `standIn_issues` — where all keys are texts, the path is a row of keys and positions.
-/

namespace BuildSpec.Schema

/-- All issues that are found are told of elements of a value. -/
def StandIn (v : Value) : Findings → Prop := Yields fun issues => ∀ i ∈ issues, v.IsTold i.path

/-- All issues that are found are about the value as a whole. -/
def StandAtRoot : Findings → Prop := Yields fun issues => ∀ i ∈ issues, i.path = []

theorem StandAtRoot.standIn {f : Findings} (h : StandAtRoot f) (v : Value) : StandIn v f := by
  intro issues hissues i hi
  rw [h issues hissues i hi]
  exact .root v

theorem standIn_nil (v : Value) : StandIn v (.ok []) := .pure fun i hi => by cases hi

theorem standAtRoot_issue (v : Value) (message : String → String) :
    StandAtRoot (Scope.issue v message) := by
  refine .bind fun shown => .pure fun i hi => ?_
  rw [List.mem_singleton.mp hi]

theorem standIn_ofAll {α : Type} {v : Value} {items : List α} {f : α → Findings}
    (h : ∀ a ∈ items, StandIn v (f a)) : StandIn v (Findings.ofAll items f) := by
  intro issues hissues i hi
  obtain ⟨lists, hlists, rfl⟩ := map_eq_ok_iff.mp hissues
  obtain ⟨issues, hmem, hi⟩ := List.mem_flatten.mp hi
  obtain ⟨a, ha, hf⟩ := exists_of_mem_mapM hlists hmem
  exact h a ha issues hf i hi

/-- What is to be known of a scope: what it finds in a value by following a reference, or in a part
by looking at the rules for it, leads to elements. -/
structure Scope.FindsElements (scope : Scope) : Prop where
  follow : ∀ target v, StandIn v (scope.follow target v)
  part : ∀ rules v, StandIn v (scope.part rules v)
  never : ∀ v, StandAtRoot (scope.part [.never] v)

namespace Scope

variable {scope : Scope}

/-- A part that no value may stand in is told as the value around it. -/
theorem FindsElements.never_of_isNever (h : scope.FindsElements) {rules : List Rule}
    (hnever : isNever rules = true) (v : Value) : StandAtRoot (scope.part rules v) := by
  unfold isNever at hnever
  split at hnever
  · exact h.never v
  · cases hnever

/-- What is found in a part is told from the whole. -/
theorem standIn_under {v part : Value} {token : String} {f : Findings} (hat : v.Told [token] part)
    (h : StandIn part f) {issues : List Issue} (hissues : f = .ok issues) :
    ∀ i ∈ issues.map (Issue.under token), v.IsTold i.path := by
  intro i hi
  obtain ⟨inner, hinner, rfl⟩ := List.mem_map.mp hi
  exact hat.isTold (h issues hissues inner hinner)

theorem standIn_issuesAt (h : scope.FindsElements) {v part : Value} {token : String}
    {rules : List Rule} (hat : v.Told [token] part) :
    StandIn v (scope.issuesAt token rules part) := by
  intro issues hissues
  obtain ⟨found, hfound, hissues⟩ := bind_eq_ok_iff.mp hissues
  cases hissues
  split
  · next hnever => exact (h.never_of_isNever hnever part).standIn v found hfound
  · exact standIn_under hat (h.part rules part) hfound

/-- An entry is told by its key, or, under the null key, without a token. -/
theorem standIn_issuesUnder (h : scope.FindsElements) {entries : Entries} {key : Value}
    {rules : List Rule} {part : Value} (hmem : (key, part) ∈ entries) :
    StandIn (.map entries) (scope.issuesUnder key rules part) := by
  intro issues hissues
  obtain ⟨found, hfound, hissues⟩ := bind_eq_ok_iff.mp hissues
  split at hissues
  · -- the null key
    simp only [Bool.true_or, if_true] at hissues
    cases hissues
    intro i hi
    obtain ⟨u, hu⟩ := h.part rules part issues hfound i hi
    exact ⟨u, .unnamed hmem hu⟩
  · simp only [Bool.false_or] at hissues
    split at hissues
    · next hstay =>
        cases hissues
        rcases Bool.or_eq_true_iff.mp hstay with hnever | hempty
        · exact (h.never_of_isNever hnever part).standIn _ issues hfound
        · rw [List.isEmpty_iff.mp hempty]
          exact fun i hi => by cases hi
    · obtain ⟨token, htoken, hissues⟩ := bind_eq_ok_iff.mp hissues
      cases hissues
      unfold Value.writePlain at htoken
      split at htoken
      · cases htoken
        have hat : (Value.map entries).Told [key.plain] part := .entry hmem .here
        exact standIn_under hat (h.part rules part) hfound
      · cases htoken

theorem told_of_mem_zipIdx {items : List Value} {entry : Value × Nat} (h : entry ∈ items.zipIdx) :
    (Value.list items).Told [toString entry.2] entry.1 :=
  .item (List.mem_zipIdx_iff_getElem?.mp h) .here

/-- **Every rule finds issues at elements**, if the rules for parts do. -/
theorem standIn_ruleIssues (h : scope.FindsElements) (v : Value) (rule : Rule) :
    StandIn v (scope.ruleIssues v rule) := by
  cases rule with
  | reference target => exact h.follow target v
  | kinds words =>
      rw [ruleIssues]
      split
      · exact standIn_nil v
      · exact (standAtRoot_issue v _).standIn v
  | properties fields =>
      rw [ruleIssues]
      refine standIn_ofAll fun field _ => ?_
      obtain ⟨name, rules⟩ := field
      dsimp only
      split
      · next part hfield =>
          cases v with
          | map entries => exact standIn_issuesAt h (Value.at_of_field? hfield).told
          | _ => cases hfield
      · exact standIn_nil v
  | otherProperties declared rules =>
      rw [ruleIssues]
      refine standIn_ofAll fun entry hentry => ?_
      obtain ⟨key, part⟩ := entry
      dsimp only
      split
      · cases v with
        | map entries => exact standIn_issuesUnder h hentry
        | _ => cases hentry
      · exact standIn_nil v
  | items rules =>
      cases v with
      | list items =>
          exact standIn_ofAll fun entry hentry => standIn_issuesAt h (told_of_mem_zipIdx hentry)
      | _ => exact standIn_nil _
  | itemsInTurn schemas =>
      cases v with
      | list items =>
          refine standIn_ofAll fun entry hentry => ?_
          obtain ⟨⟨item, rules⟩, i⟩ := entry
          have hzip := List.mem_zipIdx_iff_getElem?.mp hentry
          obtain ⟨hitem, -⟩ := List.getElem?_zip_eq_some.mp hzip
          exact standIn_issuesAt h (.item hitem .here)
      | _ => exact standIn_nil _
  | noItems =>
      rw [ruleIssues.eq_def]
      dsimp only
      split
      · exact standIn_nil _
      · exact (standAtRoot_issue _ _).standIn _
      · exact (standAtRoot_issue _ _).standIn _
      · exact standIn_nil _
  | required names =>
      cases v with
      | map entries =>
          refine .pure fun i hi => ?_
          obtain ⟨name, -, rfl⟩ := List.mem_map.mp hi
          exact .root _
      | _ => exact standIn_nil _
  | oneOf values =>
      rw [ruleIssues]
      split
      · exact standIn_nil v
      · exact .bind fun choice => (standAtRoot_issue v _).standIn v
  | anyOf options =>
      rw [ruleIssues]
      refine .bind fun holds => ?_
      split
      · exact standIn_nil v
      · exact (standAtRoot_issue v _).standIn v
  | never => exact (standAtRoot_issue v _).standIn v

theorem standIn_rulesIssues (h : scope.FindsElements) (v : Value) (rules : List Rule) :
    StandIn v (scope.rulesIssues v rules) := by
  induction rules with
  | nil => exact standIn_nil v
  | cons rule rest ih =>
      intro issues hissues i hi
      obtain ⟨first, hfirst, hissues⟩ := bind_eq_ok_iff.mp hissues
      obtain ⟨others, hothers, hissues⟩ := bind_eq_ok_iff.mp hissues
      cases hissues
      rcases List.mem_append.mp hi with hi | hi
      · exact standIn_ruleIssues h v rule first hfirst i hi
      · exact ih others hothers i hi

theorem standAtRoot_never (scope : Scope) (v : Value) :
    StandAtRoot (scope.rulesIssues v [.never]) := by
  intro issues hissues i hi
  obtain ⟨first, hfirst, hissues⟩ := bind_eq_ok_iff.mp hissues
  cases hissues
  exact standAtRoot_issue v _ first hfirst i (by simpa using hi)

end Scope

namespace Document

variable (document : Document)

/-- Following references leads to issues at elements, however many may be followed. -/
theorem standIn_issuesWithin {part : List Rule → Value → Findings}
    (hpart : ∀ rules v, StandIn v (part rules v))
    (hnever : ∀ v, StandAtRoot (part [.never] v)) (hops : Nat) (rules : List Rule) (v : Value) :
    StandIn v (document.issuesWithin part hops rules v) := by
  induction hops generalizing rules v with
  | zero => exact standIn_nil v
  | succ hops ih =>
      refine Scope.standIn_rulesIssues ⟨fun target w => ?_, hpart, hnever⟩ v rules
      dsimp only
      split
      · exact ih _ w
      · exact standIn_nil w

theorem standAtRoot_issuesTo_never (depth : Nat) (v : Value) :
    StandAtRoot (document.issuesTo depth [.never] v) := by
  cases depth with
  | zero => exact .pure fun i hi => by cases hi
  | succ depth => exact Scope.standAtRoot_never _ v

theorem standIn_issuesTo (depth : Nat) (rules : List Rule) (v : Value) :
    StandIn v (document.issuesTo depth rules v) := by
  induction depth generalizing rules v with
  | zero => exact standIn_nil v
  | succ depth ih =>
      exact standIn_issuesWithin document ih (standAtRoot_issuesTo_never document depth) _ rules v

/-- **Every issue is told of an element of the data.** -/
theorem issues_are_told (v : Value) : StandIn v (document.issues v) := by
  cases v with
  | map entries =>
      intro issues hissues i hi
      obtain ⟨found, hfound, rfl⟩ := map_eq_ok_iff.mp hissues
      have hmem : i ∈ found := List.mem_mergeSort.mp hi
      exact standIn_issuesTo document _ _ _ found hfound i hmem
  | _ =>
      refine .pure fun i hi => ?_
      rw [List.mem_singleton.mp hi]
      exact .root _

/-- Where all keys are texts, every issue has the keys and positions on the way to an element. -/
theorem standIn_issues {v : Value} (hv : v.TextKeyed) :
    Yields (fun issues => ∀ i ∈ issues, v.Has i.path) (document.issues v) :=
  fun issues hissues i hi => (issues_are_told document v issues hissues i hi).has hv

end Document

end BuildSpec.Schema
