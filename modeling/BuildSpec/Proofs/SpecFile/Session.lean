import BuildSpec.Proofs.Except
import BuildSpec.Proofs.Table
import BuildSpec.SpecFile.Session
import Mathlib.Data.List.DropRight

/-!
# What a session with a loader gives back

A loader keeps the data of files and the places of their elements in two tables, which are written
one after the other, and the files change while it keeps them.  This file tells what each load gives
back from the steps that went before it, without the tables:

* `firstLoaded` — the content with which a path was first loaded since the loader last forgot;
* `tracks_take` — one step keeps the tables in line with what was loaded;
* `tracks_run` — so does a whole session;
* `session_gives_back_first_load` — what the loads of a session give back.
-/

namespace BuildSpec.SpecFile

/-! ## What was loaded in a session -/

/-- What happens to a loader in a session. -/
inductive Event where
  | loaded (path : Path) (result : Except LoadFault Content)
  | cleared

/-- Whether the loader forgets. -/
def Event.isCleared : Event → Bool
  | cleared => true
  | loaded .. => false

/-- The content with which a path is loaded. -/
def Event.contentFor? (path : Path) : Event → Option Content
  | loaded p (.ok content) => if p = path then some content else none
  | _ => none

/-- The content with which a path was first loaded since the loader last forgot. -/
def firstLoaded (path : Path) (events : List Event) : Option Content :=
  (events.rtakeWhile fun e => !e.isCleared).findSome? (Event.contentFor? path)

namespace Session

/-- What a step does to the loader. -/
def event? (s : Session) : Step → Option Event
  | .load spelling | .loadWithSource spelling =>
    some (.loaded (.ofString spelling) (s.loaded spelling).result)
  | .clear => some .cleared
  | .write .. | .remove _ => none

/-- What happens to the loader in some steps, one after another. -/
def events (s : Session) : List Step → List Event
  | [] => []
  | step :: rest => (s.event? step).toList ++ (s.take step).session.events rest

theorem run_append (s : Session) (steps more : List Step) :
    s.run (steps ++ more) = (s.run steps).run more :=
  List.foldl_append

theorem events_append (s : Session) (steps more : List Step) :
    s.events (steps ++ more) = s.events steps ++ (s.run steps).events more := by
  induction steps generalizing s with
  | nil => rfl
  | cons step rest ih =>
      simp only [List.cons_append, events, ih, List.append_assoc]
      rfl

theorem events_singleton (s : Session) (step : Step) :
    s.events [step] = (s.event? step).toList := by
  simp [events]

end Session

theorem contentFor?_loaded (path p : Path) (result : Except LoadFault Content) :
    Event.contentFor? path (.loaded p result) = if path = p then result.toOption else none := by
  cases result with
  | error fault => simp [Event.contentFor?, Except.toOption]
  | ok content => simp [Event.contentFor?, Except.toOption, eq_comm]

theorem firstLoaded_cleared (path : Path) (events : List Event) :
    firstLoaded path (events ++ [.cleared]) = none := by
  simp [firstLoaded, Event.isCleared]

theorem firstLoaded_loaded (path p : Path) (result : Except LoadFault Content)
    (events : List Event) :
    firstLoaded path (events ++ [.loaded p result]) =
      (firstLoaded path events).or (Event.contentFor? path (.loaded p result)) := by
  have hlast : (fun e : Event => !e.isCleared) (.loaded p result) = true := rfl
  rw [firstLoaded, List.rtakeWhile_concat_pos (fun e : Event => !e.isCleared) _ _ hlast,
    List.findSome?_append, List.findSome?_singleton]
  rfl

/-! ## One load -/

/-- A fault that says that there is no file. -/
def LoadFault.isAbsence : LoadFault → Bool
  | notFound _ | notAFile _ => true
  | unreadable .. | encoding _ | document .. | notAMapping .. => false

theorem isAbsence_of_dataOf {origin : Origin} {text : String} {fault : LoadFault}
    (h : dataOf origin text = .error fault) : fault.isAbsence = false := by
  rcases bind_eq_error h with hyaml | ⟨v, -, hroot⟩
  · obtain ⟨cause, rfl⟩ := mapError_eq_error hyaml
    rfl
  · cases v with
    | null => cases hroot
    | map entries => cases hroot
    | _ =>
        obtain rfl := Except.error.inj hroot
        rfl

/-- Whatever is wrong with the content of a file, the file is there. -/
theorem isAbsence_of_ofFile {path : Path} {file : FileContent} {fault : LoadFault}
    (h : Content.ofFile path file = .error fault) : fault.isAbsence = false := by
  rcases bind_eq_error h with hopen | ⟨bytes, -, hbytes⟩
  · obtain ⟨words, rfl⟩ := mapError_eq_error hopen
    rfl
  rcases bind_eq_error hbytes with hutf8 | ⟨text, -, htext⟩
  · obtain ⟨cause, rfl⟩ := mapError_eq_error hutf8
    rfl
  rcases bind_eq_error htext with hdata | ⟨data, -, hplaces⟩
  · exact isAbsence_of_dataOf hdata
  rcases bind_eq_error hplaces with hmap | ⟨places, -, hnone⟩
  · obtain ⟨cause, rfl⟩ := mapError_eq_error hmap
    rfl
  · cases hnone

namespace Loader

/-- What a load comes to, if it is known what the loader has kept for the path. -/
theorem load_result (l : Loader) (tree : FileTree) (path : Path) :
    (l.load tree path).result =
      match fileAt tree path, l.kept? path with
      | .error fault, _ => .error fault
      | .ok _, some content => .ok content
      | .ok file, none => Content.ofFile path file := by
  unfold load
  cases fileAt tree path with
  | error fault => rfl
  | ok file =>
      cases l.kept? path with
      | some content => rfl
      | none =>
          simp only [read]
          cases Content.ofFile path file <;> rfl

/-- The loader after a load that succeeds. -/
theorem load_loader_of_ok {l : Loader} {tree : FileTree} {path : Path} {content : Content}
    (h : (l.load tree path).result = .ok content) :
    (l.load tree path).loader = if (l.kept? path).isSome then l else l.keep path content := by
  unfold load at h ⊢
  cases hfile : fileAt tree path with
  | error fault =>
      rw [hfile] at h
      cases h
  | ok file =>
      rw [hfile] at h
      cases hkept : l.kept? path with
      | some c => rfl
      | none =>
          simp only [hkept, read] at h ⊢
          cases hread : Content.ofFile path file with
          | error fault =>
              rw [hread] at h
              cases h
          | ok c =>
              rw [hread] at h
              obtain rfl := Except.ok.inj h
              rfl

theorem load_keeps (l : Loader) (tree : FileTree) (path : Path) :
    (l.load tree path).loader.keeps = l.keeps := by
  have hkeep : ∀ content, (l.keep path content).keeps = l.keeps := by
    intro content
    unfold keep
    split <;> rfl
  cases hresult : (l.load tree path).result with
  | error fault => rw [load_of_error hresult]
  | ok content =>
      rw [load_loader_of_ok hresult]
      split
      · rfl
      · exact hkeep content

/-- The tables of a loader hold the same paths, and together they hold some contents. -/
structure Holds (l : Loader) (held : Path → Option Content) : Prop where
  same_keys : l.kept.map Prod.fst = l.keptPlaces.map Prod.fst
  data_eq : ∀ path, l.kept.lookup path = (held path).map Content.data
  places_eq : ∀ path, l.keptPlaces.lookup path = (held path).map Content.places

theorem holds_fresh (keeps : Bool) : (fresh keeps).Holds fun _ => none :=
  ⟨rfl, fun _ => rfl, fun _ => rfl⟩

theorem holds_clear (l : Loader) : l.clear.Holds fun _ => none :=
  ⟨rfl, fun _ => rfl, fun _ => rfl⟩

variable {l : Loader} {held : Path → Option Content}

theorem Holds.kept?_eq (h : l.Holds held) (path : Path) :
    l.kept? path = if l.keeps then held path else none := by
  unfold kept?
  rw [h.data_eq, h.places_eq]
  cases held path <;> rfl

theorem Holds.keep (h : l.Holds held) (hkeeps : l.keeps = true) (path : Path)
    (content : Content) :
    (l.keep path content).Holds fun q => if q = path then some content else held q := by
  unfold Loader.keep
  rw [if_pos hkeeps]
  constructor
  · exact Table.keys_put_eq h.same_keys path content.data content.places
  · intro q
    simp only [Table.lookup_put, h.data_eq, beq_iff_eq]
    split <;> rfl
  · intro q
    simp only [Table.lookup_put, h.places_eq, beq_iff_eq]
    split <;> rfl

/-- A load adds what it comes to, unless there is something already. -/
theorem Holds.load (h : l.Holds held) (tree : FileTree) (path : Path) :
    (l.load tree path).loader.Holds fun q =>
      (held q).or (if l.keeps ∧ q = path then (l.load tree path).result.toOption else none) := by
  cases hresult : (l.load tree path).result with
  | error fault =>
      rw [load_of_error hresult]
      simpa [Except.toOption] using h
  | ok content =>
      rw [load_loader_of_ok hresult, h.kept?_eq]
      cases hkeeps : l.keeps with
      | false =>
          rw [keep_of_forgetful hkeeps, ite_self]
          simpa using h
      | true =>
          cases hheld : held path with
          | some earlier =>
              have hsame : ∀ q, (held q).or (if q = path then some content else none) = held q := by
                intro q
                split
                · next hq => rw [hq, hheld, Option.some_or]
                · rw [Option.or_none]
              simpa [Except.toOption, hsame] using h
          | none =>
              have hnew : ∀ q, (held q).or (if q = path then some content else none) =
                  if q = path then some content else held q := by
                intro q
                split
                · next hq => rw [hq, hheld, Option.none_or]
                · rw [Option.or_none]
              simpa [Except.toOption, hnew] using h.keep hkeeps path content

end Loader

/-! ## The tables tell what was loaded -/

namespace Session

variable {tree : FileTree} {keeps : Bool} {steps : List Step}

/-- What a loader is to remember of some events. -/
def remembered (keeps : Bool) (events : List Event) (path : Path) : Option Content :=
  if keeps then firstLoaded path events else none

theorem remembered_loaded (keeps : Bool) (events : List Event) (p : Path)
    (result : Except LoadFault Content) (path : Path) :
    remembered keeps (events ++ [.loaded p result]) path =
      (remembered keeps events path).or
        (if keeps ∧ path = p then result.toOption else none) := by
  cases keeps with
  | false => rfl
  | true =>
      simp only [remembered, if_true, true_and]
      rw [firstLoaded_loaded, contentFor?_loaded]

/-- A content that a file had at some moment of a session. -/
def WasRead (s : Session) (steps : List Step) (path : Path) (content : Content) : Prop :=
  ∃ earlier, earlier <+: steps ∧
    ∃ file, fileAt (s.run earlier).tree path = .ok file ∧
      Content.ofFile path file = .ok content

/-- The loader is in line with what happened in the session so far. -/
structure Tracks (s : Session) (steps : List Step) : Prop where
  keeps_eq : (s.run steps).loader.keeps = s.loader.keeps
  holds : (s.run steps).loader.Holds (remembered s.loader.keeps (s.events steps))
  wasRead : ∀ path content, firstLoaded path (s.events steps) = some content →
    s.WasRead steps path content

theorem WasRead.append {s : Session} {path : Path} {content : Content}
    (h : s.WasRead steps path content) (more : List Step) :
    s.WasRead (steps ++ more) path content := by
  obtain ⟨earlier, hprefix, hread⟩ := h
  exact ⟨earlier, hprefix.trans (List.prefix_append steps more), hread⟩

variable {s : Session}

theorem Tracks.kept?_eq (h : s.Tracks steps) (path : Path) :
    (s.run steps).loader.kept? path = remembered s.loader.keeps (s.events steps) path := by
  rw [h.holds.kept?_eq, h.keeps_eq]
  unfold remembered
  split <;> rfl

/-- What a load comes to, told from what the loader is to remember. -/
theorem Tracks.loaded_result (h : s.Tracks steps) (spelling : String) :
    ((s.run steps).loaded spelling).result =
      match fileAt (s.run steps).tree (.ofString spelling),
        remembered s.loader.keeps (s.events steps) (.ofString spelling) with
      | .error fault, _ => .error fault
      | .ok _, some content => .ok content
      | .ok file, none => Content.ofFile (.ofString spelling) file := by
  rw [loaded, Loader.load_result, h.kept?_eq]

/-- A content that is loaded for the first time is read from the file. -/
theorem Tracks.wasRead_of_loaded (h : s.Tracks steps) {spelling : String} {content : Content}
    (hloaded : ((s.run steps).loaded spelling).result = .ok content) :
    s.WasRead steps (.ofString spelling) content := by
  rw [h.loaded_result] at hloaded
  cases hfile : fileAt (s.run steps).tree (.ofString spelling) with
  | error fault =>
      rw [hfile] at hloaded
      cases hloaded
  | ok file =>
      rw [hfile] at hloaded
      cases hkept : remembered s.loader.keeps (s.events steps) (.ofString spelling) with
      | some earlier =>
          rw [hkept] at hloaded
          obtain rfl := Except.ok.inj hloaded
          unfold remembered at hkept
          split at hkept
          · exact h.wasRead _ _ hkept
          · cases hkept
      | none =>
          rw [hkept] at hloaded
          exact ⟨steps, List.prefix_rfl, file, hfile, hloaded⟩

/-- The loader stays in line with a step if it is in line with what the step is to it. -/
theorem tracks_append {step : Step} {new : List Event}
    (hevents : ((s.run steps).event? step).toList = new)
    (hkeeps : ((s.run steps).take step).session.loader.keeps = s.loader.keeps)
    (hholds : ((s.run steps).take step).session.loader.Holds
      (remembered s.loader.keeps (s.events steps ++ new)))
    (hread : ∀ path content, firstLoaded path (s.events steps ++ new) = some content →
      s.WasRead steps path content) : s.Tracks (steps ++ [step]) := by
  have hrun : s.run (steps ++ [step]) = ((s.run steps).take step).session := run_append s steps [step]
  have hall : s.events (steps ++ [step]) = s.events steps ++ new := by
    rw [events_append, events_singleton, hevents]
  constructor
  · rw [hrun]
    exact hkeeps
  · rw [hrun, hall]
    exact hholds
  · intro path content hfirst
    rw [hall] at hfirst
    exact (hread path content hfirst).append [step]

/-- A load keeps the loader in line, whatever it comes to. -/
theorem Tracks.load (h : s.Tracks steps) {step : Step} {spelling : String}
    (hevent : (s.run steps).event? step =
      some (.loaded (.ofString spelling) ((s.run steps).loaded spelling).result))
    (hnext : ((s.run steps).take step).session =
      { s.run steps with loader := ((s.run steps).loaded spelling).loader }) :
    s.Tracks (steps ++ [step]) := by
  refine tracks_append (congrArg Option.toList hevent) ?_ ?_ ?_
  · rw [hnext]
    exact (Loader.load_keeps _ _ _).trans h.keeps_eq
  · rw [hnext]
    have hload := h.holds.load (s.run steps).tree (.ofString spelling)
    rw [h.keeps_eq] at hload
    have hheld : remembered s.loader.keeps (s.events steps ++
        [.loaded (.ofString spelling) ((s.run steps).loaded spelling).result]) = _ :=
      funext (remembered_loaded _ _ _ _)
    exact hheld ▸ hload
  · intro path content hfirst
    rw [Option.toList_some, firstLoaded_loaded, Option.or_eq_some_iff] at hfirst
    rcases hfirst with hearlier | ⟨-, hnow⟩
    · exact h.wasRead path content hearlier
    · rw [contentFor?_loaded] at hnow
      split at hnow
      · next hpath =>
          subst hpath
          exact h.wasRead_of_loaded (toOption_eq_some_iff.mp hnow)
      · cases hnow

/-- A step that is nothing to the loader leaves it in line. -/
theorem Tracks.idle (h : s.Tracks steps) {step : Step} (hevent : (s.run steps).event? step = none)
    (hnext : ((s.run steps).take step).session.loader = (s.run steps).loader) :
    s.Tracks (steps ++ [step]) := by
  refine tracks_append (congrArg Option.toList hevent) ?_ ?_ ?_
  · rw [hnext]
    exact h.keeps_eq
  · rw [hnext, Option.toList_none, List.append_nil]
    exact h.holds
  · rw [Option.toList_none, List.append_nil]
    exact h.wasRead

theorem Tracks.clear (h : s.Tracks steps) : s.Tracks (steps ++ [.clear]) := by
  have hnone : remembered s.loader.keeps (s.events steps ++ [.cleared]) = fun _ => none := by
    funext path
    rw [remembered, firstLoaded_cleared, ite_self]
  have hevent : ((s.run steps).event? .clear).toList = [.cleared] := rfl
  refine tracks_append hevent h.keeps_eq ?_ ?_
  · exact hnone ▸ Loader.holds_clear _
  · intro path content hfirst
    rw [firstLoaded_cleared] at hfirst
    cases hfirst

/-- **One step keeps the loader in line with what happened.** -/
theorem tracks_take (h : s.Tracks steps) (step : Step) : s.Tracks (steps ++ [step]) := by
  cases step with
  | load spelling => exact h.load rfl rfl
  | loadWithSource spelling => exact h.load rfl rfl
  | write path entry => exact h.idle rfl rfl
  | remove path => exact h.idle rfl rfl
  | clear => exact h.clear

/-- **A whole session keeps the loader in line with what happened.** -/
theorem tracks_run (tree : FileTree) (keeps : Bool) (steps : List Step) :
    (start tree keeps).Tracks steps := by
  induction steps using List.reverseRecOn with
  | nil =>
      have hnone : remembered keeps [] = fun _ => none := by
        funext path
        cases keeps <;> rfl
      refine ⟨rfl, ?_, fun path content hfirst => by cases hfirst⟩
      exact hnone ▸ Loader.holds_fresh keeps
  | append_singleton steps step ih => exact tracks_take ih step

/-- What a load gives back: a fault if there is no file, what was first loaded if the loader
remembers it, and what is in the file if not. -/
theorem Tracks.loaded_result_of_find? (h : s.Tracks steps) (spelling : String) :
    match (s.run steps).tree.find? (.ofString spelling) with
    | none => ((s.run steps).loaded spelling).result = .error (.notFound (.ofString spelling))
    | some (.file file) =>
      ((s.run steps).loaded spelling).result =
        match remembered s.loader.keeps (s.events steps) (.ofString spelling) with
        | some content => .ok content
        | none => Content.ofFile (.ofString spelling) file
    | some _ => ((s.run steps).loaded spelling).result =
        .error (.notAFile (.ofString spelling)) := by
  rw [h.loaded_result, fileAt]
  cases (s.run steps).tree.find? (.ofString spelling) with
  | none => rfl
  | some entry =>
      cases entry with
      | file file => cases remembered s.loader.keeps (s.events steps) (.ofString spelling) <;> rfl
      | directory => rfl
      | other => rfl

/-- If there is a file, a load does not fail for want of one. -/
theorem Tracks.isAbsence_of_loaded (h : s.Tracks steps) {spelling : String} {file : FileContent}
    (hfile : (s.run steps).tree.find? (.ofString spelling) = some (.file file)) {fault : LoadFault}
    (hfault : ((s.run steps).loaded spelling).result = .error fault) : fault.isAbsence = false := by
  have hresult := h.loaded_result_of_find? spelling
  rw [hfile] at hresult
  rw [hresult] at hfault
  split at hfault
  · cases hfault
  · exact isAbsence_of_ofFile hfault

/-- What the tables hold for a path was read from one content of the file. -/
theorem Tracks.wasRead_of_lookup (h : s.Tracks steps) {path : Path} {data : Entries}
    {places : SourceMap} (hdata : (s.run steps).loader.kept.lookup path = some data)
    (hplaces : (s.run steps).loader.keptPlaces.lookup path = some places) :
    s.WasRead steps path ⟨data, places⟩ := by
  rw [h.holds.data_eq] at hdata
  rw [h.holds.places_eq] at hplaces
  obtain ⟨content, hcontent, rfl⟩ := Option.map_eq_some_iff.mp hdata
  rw [hcontent] at hplaces
  obtain rfl := Option.some.inj hplaces
  unfold remembered at hcontent
  split at hcontent
  · exact h.wasRead path content hcontent
  · cases hcontent

end Session

end BuildSpec.SpecFile
