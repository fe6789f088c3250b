import BuildSpec.RunSettings

/-!
# Words for levels

A word for a level is read without regard to case.  It may be the name of a level, or a word that
the log does not know at all, which counts as a warning.  Of the words that the log knows two are no
names of levels, and these are faults.

* `isLevelWord_iff` — the words that are no faults;
* `LevelWord.ofString_eq_level`, `levelOf_of_not_isLevelName` — the levels that these stand for;
* `RunSettings.routing_eq` — settings with such words lead to a routing of the log.
-/

namespace BuildSpec

namespace Log

/-- A word is one of the names of levels, in upper or lower case. -/
def IsLevelName (word : String) : Prop := Text.upperAscii word ∈ levelNames.map Prod.fst

instance (word : String) : Decidable (IsLevelName word) :=
  inferInstanceAs (Decidable (_ ∈ _))

/-- The words in capital letters that the log knows. -/
def knownWords : List String := levelNames.map Prod.fst ++ ["BASIC_FORMAT", "_STYLES"]

/-- A word is one of the names of levels, or the log does not know it at all. -/
def IsLevelWord (word : String) : Prop :=
  IsLevelName word ∨ Text.upperAscii word ∉ knownWords

instance (word : String) : Decidable (IsLevelWord word) :=
  inferInstanceAs (Decidable (_ ∨ _))

/-- The level with a name; a word that is no name of a level stands for a warning. -/
def levelOf (word : String) : Int := (levelNames.lookup (Text.upperAscii word)).getD warning

theorem head_ne_dash_of_isLevelName {word : String} (h : IsLevelName word) :
    word.toList.head? ≠ some '-' := by
  intro hdash
  obtain ⟨rest, hword⟩ := List.head?_eq_some_iff.mp hdash
  have hupper : (Text.upperAscii word).toList.head? = some '-' := by
    rw [Text.upperAscii, hword, String.toList_join]
    rfl
  have hnames : ∀ name ∈ levelNames.map Prod.fst, name.toList.head? ≠ some '-' := by decide
  exact hnames _ h hupper

/-- A level that is not set is a warning, and that is the name of a level. -/
theorem isLevelName_getD {level : Option String}
    (h : ∀ word, level = some word → IsLevelName word) :
    IsLevelName (level.getD "WARNING") := by
  cases level with
  | none => decide
  | some word => exact h word rfl

/-- Words that the log does not know count as a warning. -/
theorem levelOf_of_not_isLevelName {word : String} (h : ¬ IsLevelName word) :
    levelOf word = warning := by
  have hnone : levelNames.lookup (Text.upperAscii word) = none := by
    refine List.lookup_eq_none_iff.mpr fun e he => ?_
    rw [bne_iff_ne]
    intro hword
    exact h (List.mem_map.mpr ⟨e, he, hword.symm⟩)
  rw [levelOf, hnone, Option.getD_none]

theorem isLevelWord_iff_ne {word : String} :
    IsLevelWord word ↔
      Text.upperAscii word ≠ "BASIC_FORMAT" ∧ Text.upperAscii word ≠ "_STYLES" := by
  have hnames : ∀ name ∈ levelNames.map Prod.fst,
      name ≠ "BASIC_FORMAT" ∧ name ≠ "_STYLES" := by decide
  constructor
  · rintro (hname | hunknown)
    · exact hnames _ hname
    · constructor <;>
      · intro hword
        rw [hword] at hunknown
        exact hunknown (by decide)
  · rintro ⟨hlayout, hlayouts⟩
    by_cases hname : IsLevelName word
    · exact .inl hname
    · refine .inr fun hknown => ?_
      obtain hname' | hother := List.mem_append.mp hknown
      · exact hname hname'
      · simp [hlayout, hlayouts] at hother

/-- A word for a level is read as the level that it stands for. -/
theorem LevelWord.ofString_eq_level {word : String} (h : IsLevelWord word) :
    LevelWord.ofString word = .level (levelOf word) := by
  obtain ⟨hlayout, hlayouts⟩ := isLevelWord_iff_ne.mp h
  rw [LevelWord.ofString, if_neg hlayout, if_neg hlayouts]
  rfl

/-- **The words for levels are the words that are read as levels.** -/
theorem isLevelWord_iff {word : String} :
    IsLevelWord word ↔ ∃ n, LevelWord.ofString word = .level n := by
  refine ⟨fun h => ⟨_, LevelWord.ofString_eq_level h⟩, fun ⟨n, hread⟩ => ?_⟩
  rw [isLevelWord_iff_ne]
  constructor
  · intro hlayout
    rw [LevelWord.ofString, if_pos hlayout] at hread
    cases hread
  · intro hlayouts
    rw [LevelWord.ofString, hlayouts] at hread
    cases hread

theorem LevelWord.exists_level {word : String} (h : IsLevelName word) :
    ∃ n, LevelWord.ofString word = .level n :=
  isLevelWord_iff.mp (.inl h)

end Log

namespace RunSettings

/-- Words for levels lead to the routing for these levels. -/
theorem routing_eq {s : RunSettings} {level print : Int}
    (hlog : Log.LevelWord.ofString s.logLevel = .level level)
    (hprint : Log.LevelWord.ofString s.printLevel = .level print) :
    s.routing = .ok (.ofLevels level print) := by
  rw [routing, hprint, hlog]
  rfl

/-- Levels that are given by their names lead to a routing of the log. -/
theorem exists_routing {s : RunSettings} (hlog : Log.IsLevelName s.logLevel)
    (hprint : Log.IsLevelName s.printLevel) : ∃ routing, s.routing = .ok routing := by
  obtain ⟨level, hlevel⟩ := Log.LevelWord.exists_level hlog
  obtain ⟨print, hprint⟩ := Log.LevelWord.exists_level hprint
  exact ⟨_, routing_eq hlevel hprint⟩

end RunSettings

end BuildSpec
