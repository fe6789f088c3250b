import BuildSpec.Proofs.CommandLine.ExitCode

/-!
# Paths that overlap

The paths of a command line may come in any order, be repeated, lie below one another and be spelt
in several ways.  None of this matters to a run, because the files that are found are a set put in
order:

* `mem_files_append_iff` — more paths lead to more files, and to nothing else;
* `answer_congr` — a report depends on the paths only by the files that are found;
* `find_is_ordered_union` — which paths lead to the same files.
-/

namespace BuildSpec.CommandLine

/-- The files that the paths on a command line lead to. -/
def World.files (w : World) (arguments : List String) : List Path :=
  SpecFile.find w.tree (arguments.map .ofString)

variable {w : World} {ps qs rs : List String}

theorem isProper_of_mem_arguments : ∀ p ∈ ps.map Path.ofString, p.IsProper := by
  intro p hp
  obtain ⟨s, -, rfl⟩ := List.mem_map.mp hp
  exact Path.isProper_ofString s

namespace World

/-- Two lists of paths that lead to the same files lead to them in the same order. -/
theorem files_eq_of_mem_iff (h : w.tree.IsSound) (hmem : ∀ p, p ∈ w.files rs ↔ p ∈ w.files ps) :
    w.files rs = w.files ps :=
  SpecFile.find_eq_of_mem_iff h isProper_of_mem_arguments isProper_of_mem_arguments hmem

/-- More paths lead to the files of both. -/
theorem mem_files_append_iff {p : Path} :
    p ∈ w.files (ps ++ qs) ↔ p ∈ w.files ps ∨ p ∈ w.files qs := by
  simp only [files, SpecFile.mem_find_iff, List.map_append, List.mem_append, or_and_right,
    exists_or]

/-- A report depends on the paths only by the files that are found. -/
theorem answer_congr {r r' : Request} (hformat : r'.format = r.format)
    (hfind : SpecFile.find w.tree r'.roots = SpecFile.find w.tree r.roots) (keeps : Bool)
    (routing : Log.Routing) :
    (w.answer keeps routing r').output = (w.answer keeps routing r).output ∧
      (w.answer keeps routing r').exitCode = (w.answer keeps routing r).exitCode := by
  have hchecks : w.checks keeps r'.roots = w.checks keeps r.roots := by
    rw [checks, checks, hfind]
  simp only [answer, hchecks, hformat]
  split
  · exact ⟨rfl, rfl⟩
  · exact ⟨rfl, rfl⟩

/-- **The files that are found are a union in order.**  They stand in the order of paths, each path
once, and those for two lists of paths are the files for either of them.  So the order of the paths,
repetitions and spellings do not matter, and a path below a listed directory adds nothing, unless it
leads to a file that is not called like a spec file.  Requests that lead to the same files have the
same report. -/
theorem find_is_ordered_union (w : World) (h : w.tree.IsSound) (ps qs : List String) :
    (w.files (ps ++ qs)).Pairwise (fun p q => p.components < q.components) ∧
      (∀ p, p ∈ w.files (ps ++ qs) ↔ p ∈ w.files ps ∨ p ∈ w.files qs) ∧
      (∀ rs : List String, (∀ p, p ∈ rs.map Path.ofString ↔ p ∈ ps.map Path.ofString) →
        w.files rs = w.files ps) ∧
      (∀ root ∈ ps, w.tree.find? (.ofString root) = some .directory →
        ∀ s, (Path.ofString s).IsBelow (.ofString root) →
          (w.tree.HasFile (.ofString s) → (Path.ofString s).name ∈ SpecFile.names) →
            w.files (s :: ps) = w.files ps) ∧
      ∀ (keeps : Bool) (routing : Log.Routing) (r r' : Request), r'.format = r.format →
        SpecFile.find w.tree r'.roots = SpecFile.find w.tree r.roots →
          (w.answer keeps routing r').output = (w.answer keeps routing r).output ∧
            (w.answer keeps routing r').exitCode = (w.answer keeps routing r).exitCode := by
  refine ⟨SpecFile.pairwise_find h isProper_of_mem_arguments, fun p => mem_files_append_iff,
    ?_, ?_, fun keeps routing r r' hformat hfind => answer_congr hformat hfind keeps routing⟩
  · intro rs hsame
    refine files_eq_of_mem_iff h fun p => ?_
    simp only [files, SpecFile.mem_find_iff, hsame]
  · intro root hroot hdirectory s hbelow hname
    refine files_eq_of_mem_iff h fun p => ?_
    rw [← List.singleton_append, mem_files_append_iff, or_iff_right_of_imp]
    intro hp
    obtain ⟨root', hroot', hp⟩ := SpecFile.mem_find_iff.mp hp
    obtain rfl := List.mem_singleton.mp hroot'
    exact SpecFile.mem_find_iff.mpr ⟨_, List.mem_map_of_mem hroot,
      SpecFile.mem_candidates_of_isBelow h hdirectory hbelow hname hp⟩

/-- A world with a directory inside another one, and a third one whose name as a text comes between
those of the two. -/
def nestedWorld : World where
  environment := ⟨none, none, none, none⟩
  tree := ⟨[(["a"], .directory), (["a", "project.yml"], .file (.ok [])), (["a", "b"], .directory),
    (["a", "b", "project.yml"], .file (.ok [])), (["a-b"], .directory),
    (["a-b", "project.yml"], .file (.ok []))], []⟩
  pathExists _ _ := true
  wording := id

/-- The inner directory adds nothing to the outer one, however the two are spelt, and comes before
the third one. -/
theorem nestedWorld_is_found_once :
    nestedWorld.tree.IsSound ∧
      (nestedWorld.files (["a"] ++ ["a-b"])).Pairwise (fun p q => p.components < q.components) ∧
      .ofString "a/b/project.yml" ∈ nestedWorld.files (["a"] ++ ["a-b"]) ∧
      (Path.ofString "a/b/project.yml").components <
        (Path.ofString "a-b/project.yml").components ∧
      nestedWorld.files ["./a", "a//", "a"] = nestedWorld.files ["a"] ∧
      nestedWorld.files ["a/b", "a"] = nestedWorld.files ["a"] ∧
      (nestedWorld.answer false ⟨30, 30⟩ ⟨.json, none, ["./a", "a//", "a"]⟩).output =
        (nestedWorld.answer false ⟨30, 30⟩ ⟨.json, none, ["a"]⟩).output := by
  have hsound : nestedWorld.tree.IsSound := ⟨by decide, by decide⟩
  obtain ⟨horder, hunion, hset, hbelow, hreport⟩ :=
    find_is_ordered_union nestedWorld hsound ["a"] ["a-b"]
  have hspelt : nestedWorld.files ["./a", "a//", "a"] = nestedWorld.files ["a"] :=
    hset _ fun p => by
      have hpaths : ["./a", "a//", "a"].map Path.ofString = List.replicate 3 (.ofString "a") := by
        decide
      rw [hpaths]
      simp
  have hinner : .ofString "a/b/project.yml" ∈ nestedWorld.files ["a"] := by
    refine SpecFile.mem_find_iff.mpr ⟨.ofString "a", by simp, ?_⟩
    decide
  refine ⟨hsound, horder, (hunion _).mpr (.inl hinner), by decide, hspelt, ?_, ?_⟩
  · exact hbelow "a" (by simp) rfl "a/b" ⟨by decide, ["b"], by decide⟩ fun ⟨_, hfile⟩ => by
      cases hfile
  · exact (hreport false ⟨30, 30⟩ ⟨.json, none, ["a"]⟩ ⟨.json, none, _⟩ rfl hspelt).1

end World

end BuildSpec.CommandLine
