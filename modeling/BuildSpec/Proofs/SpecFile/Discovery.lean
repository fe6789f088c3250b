import BuildSpec.Proofs.FileTree
import BuildSpec.Proofs.SpecFile.LoadFaults
import BuildSpec.SpecFile.Discovery
import Mathlib.Data.List.Sort

/-!
# Which spec files are found

What is found is the union of what the single paths contribute, in the order of paths and without
repetition.  A path to a file contributes itself, and a path to a directory everything below it that
is called like a spec file:

* `mem_find_iff` — what is found, by what the paths contribute;
* `mem_candidates_iff` — what a path contributes;
* `pairwise_find` — the order is strict;
* `found_exactly` — which paths are found, and what becomes of those that lead to no file;
* `directory_is_found` — a directory may be called like a spec file.
-/

namespace BuildSpec

/-- A path leads to a file. -/
def FileTree.HasFile (t : FileTree) (p : Path) : Prop := ∃ content, t.find? p = some (.file content)

namespace SpecFile

variable {tree : FileTree} {roots : List Path} {p root file : Path}

/-- A spec file is found if one of the paths leads to it. -/
theorem mem_find_iff :
    file ∈ find tree roots ↔ ∃ root ∈ roots, file ∈ (candidates tree root).toOption.getD [] := by
  unfold find
  rw [List.mem_mergeSort, List.mem_eraseDups, List.mem_flatMap]

/-- Paths to nothing but spec files lead to themselves. -/
theorem mem_find_of_files (h : ∀ root ∈ roots, (candidates tree root).toOption = some [root]) :
    file ∈ find tree roots ↔ file ∈ roots := by
  rw [mem_find_iff]
  constructor
  · rintro ⟨root, hroot, hfile⟩
    rw [h root hroot] at hfile
    rwa [List.mem_singleton.mp hfile]
  · intro hroot
    refine ⟨file, hroot, ?_⟩
    rw [h file hroot]
    exact List.mem_singleton_self file

/-! ## What a path contributes -/

theorem contains_of_hasFile (h : tree.HasFile p) : tree.contains p = true := by
  obtain ⟨content, hfile⟩ := h
  rw [FileTree.contains, hfile]
  rfl

theorem mem_below_iff {place rest : List String} {name : String} :
    rest ∈ tree.below place name ↔
      rest.getLast? = some name ∧ ∃ e, (place ++ rest, e) ∈ tree.entries := by
  simp only [FileTree.below, List.mem_filterMap, Option.ite_none_right_eq_some,
    Option.some.injEq, List.isPrefixOf_iff_prefix]
  constructor
  · rintro ⟨⟨names, e⟩, hentry, ⟨⟨rest', rfl⟩, hname⟩, rfl⟩
    rw [List.drop_left] at hname ⊢
    exact ⟨hname, e, hentry⟩
  · rintro ⟨hname, e, hentry⟩
    refine ⟨_, hentry, ⟨List.prefix_append place rest, ?_⟩, List.drop_left⟩
    rwa [List.drop_left]

/-- What stands below a directory under the name of a spec file is found there, whatever it is. -/
theorem mem_namedBelow_iff (h : tree.IsSound) {place : List String}
    (hplace : tree.resolve? root = some place) :
    p ∈ namedBelow tree root ↔
      p.IsBelow root ∧ p.name ∈ SpecFile.names ∧ tree.contains p = true := by
  have hnamed : p ∈ namedBelow tree root ↔ ∃ rest, (∃ name ∈ SpecFile.names,
      rest ∈ tree.below place name) ∧ ⟨root.slashes, root.names ++ rest⟩ = p := by
    simp only [namedBelow, hplace, List.mem_map, List.mem_flatMap]
  rw [hnamed]
  constructor
  · rintro ⟨rest, ⟨name, hname, hrest⟩, rfl⟩
    obtain ⟨hlast, e, hentry⟩ := mem_below_iff.mp hrest
    have hne : rest ≠ [] := by
      rintro rfl
      cases hlast
    have hup : ".." ∉ rest := fun hmem =>
      (h.names _ hentry ".." (List.mem_append_right place hmem)).1 rfl
    refine ⟨⟨rfl, rest, hne, hup, rfl⟩, ?_, ?_⟩
    · rw [Path.name, List.getLast?_append_of_ne_nil _ hne, hlast]
      exact hname
    · exact (h.contains_below_iff hplace hne hup).mpr ⟨e, hentry⟩
  · obtain ⟨slashes, names⟩ := p
    rintro ⟨⟨rfl, rest, hne, hup, rfl⟩, hname, hthere⟩
    have hentry := (h.contains_below_iff hplace hne hup).mp hthere
    refine ⟨rest, ⟨_, hname, mem_below_iff.mpr ⟨?_, hentry⟩⟩, rfl⟩
    rw [Path.name, List.getLast?_append_of_ne_nil _ hne]
    obtain ⟨last, hlast⟩ := Option.ne_none_iff_exists'.mp (mt List.getLast?_eq_none_iff.mp hne)
    rw [hlast]
    rfl

/-- **What a path contributes**: itself, if it leads to a file with the ending of a spec file, or
what stands below it under the name of a spec file, if it leads to a directory. -/
theorem mem_candidates_iff (h : tree.IsSound) :
    p ∈ (candidates tree root).toOption.getD [] ↔
      (p = root ∧ tree.HasFile root ∧ root.suffix ∈ suffixes) ∨
        (tree.find? root = some .directory ∧ p.IsBelow root ∧ p.name ∈ SpecFile.names ∧
          tree.contains p = true) := by
  unfold candidates FileTree.HasFile
  cases hfound : tree.find? root with
  | none => simp [Except.toOption]
  | some e =>
      cases e with
      | file content =>
          by_cases hsuffix : root.suffix ∈ suffixes <;> simp [hsuffix, Except.toOption]
      | directory =>
          obtain ⟨place, hplace, -⟩ := Option.bind_eq_some_iff.mp hfound
          simpa [Except.toOption] using mem_namedBelow_iff h hplace
      | other => simp [Except.toOption]

/-- What lies below a directory contributes nothing that the directory does not, unless it is a file
that is not called like a spec file. -/
theorem mem_candidates_of_isBelow (h : tree.IsSound) (hroot : tree.find? root = some .directory)
    (hbelow : p.IsBelow root) (hname : tree.HasFile p → p.name ∈ SpecFile.names)
    (hfile : file ∈ (candidates tree p).toOption.getD []) :
    file ∈ (candidates tree root).toOption.getD [] := by
  rw [mem_candidates_iff h] at hfile ⊢
  rcases hfile with ⟨rfl, hthere, -⟩ | ⟨-, hfile, hnamed, hthere⟩
  · exact .inr ⟨hroot, hbelow, hname hthere, contains_of_hasFile hthere⟩
  · exact .inr ⟨hroot, hfile.trans hbelow, hnamed, hthere⟩

/-! ## The order -/

/-- What is found is read from a command line, or made of names on the disk. -/
theorem isProper_of_mem_find (h : tree.IsSound) (hroots : ∀ root ∈ roots, root.IsProper)
    (hp : p ∈ find tree roots) : p.IsProper := by
  obtain ⟨root, hroot, hp⟩ := mem_find_iff.mp hp
  rcases (mem_candidates_iff h).mp hp with ⟨rfl, -⟩ | ⟨hdirectory, hbelow, -, hthere⟩
  · exact hroots p hroot
  · obtain ⟨slashes, names⟩ := p
    obtain ⟨rfl, rest, hne, hup, rfl⟩ := hbelow
    obtain ⟨place, hplace, -⟩ := Option.bind_eq_some_iff.mp hdirectory
    obtain ⟨e, hentry⟩ := (h.contains_below_iff hplace hne hup).mp hthere
    intro name hname
    rcases List.mem_append.mp hname with hname | hname
    · exact hroots root hroot name hname
    · exact (h.names _ hentry name (List.mem_append_right place hname)).2

/-- Without repetition, no path is left twice. -/
theorem nodup_eraseDups (paths : List Path) : paths.eraseDups.Nodup := by
  induction hn : paths.length using Nat.strong_induction_on generalizing paths with
  | _ n ih =>
      cases paths with
      | nil => simp
      | cons first rest =>
          have hshorter : (rest.filter fun q => !q == first).length < n := by
            have hle := List.length_filter_le (fun q => !q == first) rest
            rw [List.length_cons] at hn
            omega
          rw [List.eraseDups_cons, List.nodup_cons]
          exact ⟨by simp [List.mem_eraseDups], ih _ hshorter _ rfl⟩

/-- **What is found stands in the order of paths**, each path once. -/
theorem pairwise_find (h : tree.IsSound) (hroots : ∀ root ∈ roots, root.IsProper) :
    (find tree roots).Pairwise fun p q => p.components < q.components := by
  have hsorted : (find tree roots).Pairwise fun p q => (!q.before p) = true :=
    List.pairwise_mergeSort Path.notBefore_trans Path.notBefore_total _
  have hnodup : (find tree roots).Nodup :=
    (List.mergeSort_perm _ _).nodup_iff.mpr (nodup_eraseDups _)
  refine (hsorted.and hnodup).imp_of_mem fun hp hq hpq => ?_
  exact Path.lt_of_notBefore (isProper_of_mem_find h hroots hp) (isProper_of_mem_find h hroots hq)
    hpq.2 hpq.1

/-- What is found is determined by which files these are. -/
theorem find_eq_of_mem_iff (h : tree.IsSound) {roots' : List Path}
    (hroots : ∀ root ∈ roots, root.IsProper) (hroots' : ∀ root ∈ roots', root.IsProper)
    (hmem : ∀ p, p ∈ find tree roots ↔ p ∈ find tree roots') : find tree roots = find tree roots' :=
  (pairwise_find h hroots).eq_of_mem_iff (pairwise_find h hroots') hmem

/-! ## What is found -/

/-- A path that leads to something that is no file is reported with one error. -/
theorem report_of_not_hasFile (around : Surroundings) (l : Loader)
    (hthere : tree.contains p = true) (hnot : ¬ tree.HasFile p) :
    (checkFile around tree l p).report = ⟨p, [loadProblem around.wording (.notAFile p)], []⟩ := by
  obtain ⟨e, he⟩ := Option.isSome_iff_exists.mp hthere
  refine report_of_load_error around (load_eq_error_iff.mpr (.inr (.inl ⟨e, he, ?_, rfl⟩)))
  rintro content rfl
  exact hnot ⟨content, he⟩

/-- **Which paths are found.**  They are the listed paths to files with the ending of a spec file,
and all that stands below the listed directories under the name of a spec file.  Something is there
under each of them.  They are all files exactly if nothing but files has such a name below the
listed directories; otherwise what is no file is checked as well, and reported with one error. -/
theorem found_exactly (h : tree.IsSound) (arguments : List String) :
    let roots := arguments.map Path.ofString
    (∀ p, p ∈ find tree roots ↔
      (p ∈ roots ∧ tree.HasFile p ∧ p.suffix ∈ suffixes) ∨
        ∃ root ∈ roots, tree.find? root = some .directory ∧ p.IsBelow root ∧
          p.name ∈ SpecFile.names ∧ tree.contains p = true) ∧
      (∀ p ∈ find tree roots, tree.contains p = true) ∧
      ((∀ p ∈ find tree roots, tree.HasFile p) ↔
        ∀ root ∈ roots, tree.find? root = some .directory → ∀ p : Path, p.IsBelow root →
          p.name ∈ SpecFile.names → tree.contains p = true → tree.HasFile p) ∧
      ∀ p ∈ find tree roots, ¬ tree.HasFile p → ∀ (around : Surroundings) (l : Loader),
        (checkFile around tree l p).report = ⟨p, [loadProblem around.wording (.notAFile p)], []⟩ := by
  intro roots
  have hfound : ∀ p, p ∈ find tree roots ↔
      (p ∈ roots ∧ tree.HasFile p ∧ p.suffix ∈ suffixes) ∨
        ∃ root ∈ roots, tree.find? root = some .directory ∧ p.IsBelow root ∧
          p.name ∈ SpecFile.names ∧ tree.contains p = true := by
    intro p
    simp only [mem_find_iff, mem_candidates_iff h, and_or_left, exists_or]
    refine or_congr ⟨?_, fun hp => ⟨p, hp.1, rfl, hp.2⟩⟩ Iff.rfl
    rintro ⟨root, hroot, rfl, hfile⟩
    exact ⟨hroot, hfile⟩
  have hthere : ∀ p ∈ find tree roots, tree.contains p = true := by
    intro p hp
    rcases (hfound p).mp hp with ⟨-, hfile, -⟩ | ⟨root, -, -, -, -, hp⟩
    · exact contains_of_hasFile hfile
    · exact hp
  refine ⟨hfound, hthere, ⟨?_, ?_⟩, ?_⟩
  · intro hfiles root hroot hdirectory p hbelow hname hp
    exact hfiles p ((hfound p).mpr (.inr ⟨root, hroot, hdirectory, hbelow, hname, hp⟩))
  · intro hfiles p hp
    rcases (hfound p).mp hp with ⟨-, hfile, -⟩ | ⟨root, hroot, hdirectory, hbelow, hname, hp⟩
    · exact hfile
    · exact hfiles root hroot hdirectory p hbelow hname hp
  · intro p hp hnot around l
    exact report_of_not_hasFile around l (hthere p hp) hnot

/-- A directory that is called like a spec file, with a spec file in it, and a file beside it. -/
def shelfTree : FileTree :=
  ⟨[(["shelf"], .directory), (["shelf", "project.yml"], .directory),
    (["shelf", "project.yml", "project.yaml"], .file (.ok [])),
    (["shelf", "notes.yml"], .file (.ok []))], []⟩

theorem isSound_shelfTree : shelfTree.IsSound := ⟨by decide, by decide⟩

/-- On the shelf, the directory is found and reported, the file in it is found, and the file beside
it is found only if it is listed. -/
theorem shelf_is_searched :
    shelfTree.IsSound ∧
      .ofString "shelf/project.yml" ∈ find shelfTree (["shelf"].map .ofString) ∧
      (∀ (around : Surroundings) (l : Loader),
        (checkFile around shelfTree l (.ofString "shelf/project.yml")).report =
          ⟨.ofString "shelf/project.yml",
            [loadProblem around.wording (.notAFile (.ofString "shelf/project.yml"))], []⟩) ∧
      .ofString "shelf/project.yml/project.yaml" ∈ find shelfTree (["shelf"].map .ofString) ∧
      .ofString "shelf/notes.yml" ∉ find shelfTree (["shelf"].map .ofString) ∧
      .ofString "shelf/notes.yml" ∈
        find shelfTree (["shelf", "./shelf//notes.yml"].map .ofString) := by
  obtain ⟨hfound, -, -, hreport⟩ := found_exactly isSound_shelfTree ["shelf"]
  obtain ⟨hlisted, -, -, -⟩ := found_exactly isSound_shelfTree ["shelf", "./shelf//notes.yml"]
  have hshelf : shelfTree.find? (.ofString "shelf") = some .directory := rfl
  have hdirectory : Path.ofString "shelf/project.yml" ∈ find shelfTree (["shelf"].map .ofString) :=
    (hfound _).mpr (.inr ⟨.ofString "shelf", by simp, hshelf,
      ⟨by decide, ["project.yml"], by decide⟩, by decide, by decide⟩)
  have hnot : ¬ shelfTree.HasFile (.ofString "shelf/project.yml") := by
    rintro ⟨content, hfile⟩
    have hentry : shelfTree.find? (.ofString "shelf/project.yml") = some .directory := rfl
    rw [hentry] at hfile
    cases hfile
  refine ⟨isSound_shelfTree, hdirectory, hreport _ hdirectory hnot, ?_, ?_, ?_⟩
  · exact (hfound _).mpr (.inr ⟨.ofString "shelf", by simp, hshelf,
      ⟨by decide, ["project.yml", "project.yaml"], by decide⟩, by decide, by decide⟩)
  · rw [hfound]
    rintro (⟨hmem, -⟩ | ⟨-, -, -, -, hname, -⟩)
    · revert hmem
      decide
    · revert hname
      decide
  · exact (hlisted _).mpr (.inl ⟨by decide, ⟨.ok [], rfl⟩, by decide⟩)

/-- **A path that is found need not lead to a file.** -/
theorem directory_is_found :
    .ofString "shelf/project.yml" ∈ find shelfTree (["shelf"].map .ofString) ∧
      shelfTree.find? (.ofString "shelf/project.yml") = some .directory := by
  refine ⟨mem_find_iff.mpr ⟨.ofString "shelf", by simp, ?_⟩, rfl⟩
  decide

end SpecFile

end BuildSpec
