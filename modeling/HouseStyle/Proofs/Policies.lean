import HouseStyle.Proofs.Paths
import HouseStyle.Selection.Policy
import Mathlib.Data.List.Forall2

/-! What a policy says about a path by the steps of the path.

All of the policy but its patterns looks at the last step and at the ones before it, so a path passes with
any other beginning that has no more steps. The patterns look at the path as it is shown. Settings make a policy
as soon as their patterns can be read, and what it accepts can be told entry by entry of the settings, whatever
their order.
-/

set_option autoImplicit false
namespace HouseStyle

namespace Path

theorem getLast?_components {p : Path} (some : p.steps ≠ []) : p.components.getLast? = p.steps.getLast? := by
  rw [components_eq, List.getLast?_append_of_ne_nil _ some]

theorem not_name_of_mem_start {p : Path} {segment : Segment} : Component.name segment ∉ p.start := by
  rw [start]
  split
  · simp
  · split <;> simp

theorem steps_ne_nil_of_fileName? {p : Path} {name : Segment} (named : p.fileName? = some name) :
    p.steps ≠ [] := by
  intro none
  rw [fileName?, components_eq, none, List.append_nil] at named
  split at named
  · next last => exact not_name_of_mem_start (List.mem_of_getLast? last)
  · simp at named

theorem fileName?_of_suffix {p q : Path} (suffix : q.steps <:+ p.steps) (some : q.steps ≠ []) :
    q.fileName? = p.fileName? := by
  have longer : p.steps ≠ [] := by
    rintro none
    rw [none, List.suffix_nil] at suffix
    exact some suffix
  rw [fileName?, fileName?, getLast?_components some, getLast?_components longer]
  obtain ⟨front, whole⟩ := suffix
  rw [← whole, List.getLast?_append_of_ne_nil _ some]

/-- The names of the directories that a path leads through, as they are shown. -/
def directories (p : Path) : List String :=
  p.parents.filterMap fun
    | .name segment => some (Text.decodeLossy segment)
    | _ => none

theorem mem_directories {p : Path} {name : String} :
    name ∈ p.directories ↔ ∃ segment, .name segment ∈ p.parents ∧ Text.decodeLossy segment = name := by
  rw [directories, List.mem_filterMap]
  constructor
  · rintro ⟨c, member, shown⟩
    cases c with
    | name segment => exact ⟨segment, member, Option.some.inj shown⟩
    | root | here | up => cases shown
  · rintro ⟨segment, member, rfl⟩
    exact ⟨.name segment, member, rfl⟩

theorem parents_eq {p : Path} (some : p.steps ≠ []) : p.parents = p.start ++ p.steps.dropLast := by
  rw [parents, components_eq, List.dropLast_append_of_ne_nil some]

end Path

/-- The patterns are what the texts say, one by one. -/
def Glob.Reads : List String → List Glob.Pattern → Prop :=
  List.Forall₂ fun text pattern => Glob.parse text = .ok pattern

theorem Glob.Reads.mem_iff {texts : List String} {patterns : List Glob.Pattern} (reads : Glob.Reads texts patterns)
    {pattern : Glob.Pattern} : pattern ∈ patterns ↔ ∃ text ∈ texts, Glob.parse text = .ok pattern := by
  induction reads with
  | nil => simp
  | @cons text read texts others first later ih =>
    rw [List.mem_cons, ih, List.exists_mem_cons_iff, first, Except.ok.injEq, eq_comm]

theorem Glob.exists_reads_iff (texts : List String) :
    (∃ patterns, Glob.Reads texts patterns) ↔ ∀ text ∈ texts, ∃ pattern, Glob.parse text = .ok pattern := by
  induction texts with
  | nil => exact iff_of_true ⟨[], .nil⟩ (List.forall_mem_nil _)
  | cons text rest ih =>
    rw [List.forall_mem_cons, ← ih]
    constructor
    · rintro ⟨_, reads⟩
      cases reads with
      | cons first later => exact ⟨⟨_, first⟩, _, later⟩
    · rintro ⟨⟨pattern, first⟩, patterns, later⟩
      exact ⟨pattern :: patterns, .cons first later⟩

namespace Policy

/-- The policy without its patterns. -/
def passesByName (policy : Policy) (path : Path) : Bool :=
  policy.hasExtension path && !policy.isTest path && !policy.liesExcluded path

theorem accepts_eq (policy : Policy) (path : Path) :
    policy.accepts path = (policy.passesByName path && !policy.isExcluded path) := rfl

theorem accepts_iff (policy : Policy) (path : Path) :
    policy.accepts path = true ↔ policy.passesByName path = true ∧ policy.isExcluded path = false := by
  simp [accepts_eq]

theorem steps_ne_nil_of_passesByName {policy : Policy} {path : Path}
    (passes : policy.passesByName path = true) : path.steps ≠ [] := by
  simp only [passesByName, hasExtension, Path.extension?, Bool.and_eq_true, beq_iff_eq] at passes
  obtain ⟨extension, found, _⟩ := Option.map_eq_some_iff.mp passes.1.1
  obtain ⟨name, named, _⟩ := Option.bind_eq_some_iff.mp found
  exact Path.steps_ne_nil_of_fileName? named

theorem any_isExcludedName_start (policy : Policy) (path : Path) : path.start.any policy.isExcludedName = false := by
  rw [Path.start]
  split
  · rfl
  · split <;> rfl

theorem liesExcluded_eq (policy : Policy) {path : Path} (some : path.steps ≠ []) :
    policy.liesExcluded path = path.steps.dropLast.any policy.isExcludedName := by
  rw [liesExcluded, Path.parents_eq some, List.any_append, any_isExcludedName_start, Bool.false_or]

/-- A path that passes still does so without its first steps. -/
theorem passesByName_of_suffix {policy : Policy} {path rest : Path} (suffix : rest.steps <:+ path.steps)
    (some : rest.steps ≠ []) (passes : policy.passesByName path = true) :
    policy.passesByName rest = true := by
  have longer := steps_ne_nil_of_passesByName passes
  have name := Path.fileName?_of_suffix suffix some
  have kept : rest.steps.dropLast <:+ path.steps.dropLast := by
    obtain ⟨front, whole⟩ := suffix
    exact ⟨front, by rw [← whole, List.dropLast_append_of_ne_nil some]⟩
  simp only [passesByName, hasExtension, isTest, Path.extension?, Path.shownName, Bool.and_eq_true,
    Bool.not_eq_true'] at passes ⊢
  rw [name]
  refine ⟨passes.1, ?_⟩
  -- the name is the same, and there are only fewer directories to be excluded
  have outside := passes.2
  rw [liesExcluded_eq policy longer, List.any_eq_false] at outside
  rw [liesExcluded_eq policy some, List.any_eq_false]
  exact fun c member => outside c (kept.subset member)

/-! What settings make of a policy -/

theorem pattern_eq_ok_iff {text : String} {read : Glob.Pattern} :
    pattern text = .ok read ↔ Glob.parse text = .ok read := by
  rw [pattern]
  cases Glob.parse text with
  | ok found => simp
  | error cause => simp

theorem mapM_pattern_eq_ok_iff {texts : List String} {patterns : List Glob.Pattern} :
    texts.mapM pattern = .ok patterns ↔ Glob.Reads texts patterns := by
  induction texts generalizing patterns with
  | nil =>
    rw [List.mapM_nil, Glob.Reads, List.forall₂_nil_left_iff]
    exact ⟨fun same => (Except.ok.inj same).symm, fun none => congrArg Except.ok none.symm⟩
  | cons text rest ih =>
    rw [List.mapM_cons, Glob.Reads, List.forall₂_cons_left_iff]
    constructor
    · intro all
      cases first : pattern text with
      | error cause => simp [first, bind, Except.bind] at all
      | ok read =>
        cases later : rest.mapM pattern with
        | error cause => simp [first, later, bind, Except.bind] at all
        | ok others =>
          simp only [first, later, bind, Except.bind, pure, Except.pure, Except.ok.injEq] at all
          exact ⟨read, others, pattern_eq_ok_iff.mp first, ih.mp later, all.symm⟩
    · rintro ⟨read, others, first, later, rfl⟩
      rw [pattern_eq_ok_iff.mpr first, ih.mpr later]
      rfl

/-- The policy says what the settings say. -/
structure Follows (policy : Policy) (settings : SelectionSettings) : Prop where
  extension : policy.extension = String.ofList (settings.extension.toList.dropWhile (· == '.'))
  directories : policy.excludedDirectories = settings.excludedDirectories
  suffixes : policy.testSuffixes = settings.testSuffixes
  patterns : Glob.Reads settings.excluded policy.excluded

theorem ofSettings_eq_ok_iff {settings : SelectionSettings} {policy : Policy} :
    ofSettings settings = .ok policy ↔ policy.Follows settings := by
  rw [ofSettings]
  constructor
  · intro built
    cases read : settings.excluded.mapM pattern with
    | error cause => simp [read, bind, Except.bind] at built
    | ok patterns =>
      simp only [read, bind, Except.bind, pure, Except.pure, Except.ok.injEq] at built
      subst built
      exact ⟨rfl, rfl, rfl, mapM_pattern_eq_ok_iff.mp read⟩
  · rintro ⟨extension, directories, suffixes, patterns⟩
    rw [mapM_pattern_eq_ok_iff.mpr patterns]
    simp only [bind, Except.bind, pure, Except.pure, ← extension, ← directories, ← suffixes]

theorem liesExcluded_eq_false_iff (policy : Policy) (path : Path) :
    policy.liesExcluded path = false ↔ ∀ name ∈ policy.excludedDirectories, name ∉ path.directories := by
  rw [liesExcluded, List.any_eq_false]
  constructor
  · intro outside name listed member
    obtain ⟨segment, inside, rfl⟩ := Path.mem_directories.mp member
    apply outside _ inside
    simpa [isExcludedName] using listed
  · intro outside c member
    cases c with
    | name segment =>
      intro listed
      exact outside _ (by simpa [isExcludedName] using listed) (Path.mem_directories.mpr ⟨segment, member, rfl⟩)
    | root | here | up => exact Bool.false_ne_true

/-- What is accepted, entry by entry of the settings. -/
theorem Follows.accepts_iff {policy : Policy} {settings : SelectionSettings} (follows : policy.Follows settings)
    (path : Path) :
    policy.accepts path = true ↔
      path.extension?.map Text.decodeLossy = some (String.ofList (settings.extension.toList.dropWhile (· == '.'))) ∧
        (∀ suffix ∈ settings.testSuffixes, ¬ suffix.toList <:+ path.shownName.toList) ∧
        (∀ name ∈ settings.excludedDirectories, name ∉ path.directories) ∧
        ∀ text ∈ settings.excluded, ∀ pattern, Glob.parse text = .ok pattern →
          Glob.accepts pattern path.display.toList = false := by
  have byPattern : policy.isExcluded path = false ↔ ∀ text ∈ settings.excluded, ∀ pattern,
      Glob.parse text = .ok pattern → Glob.accepts pattern path.display.toList = false := by
    rw [isExcluded, List.any_eq_false]
    constructor
    · intro free text listed pattern read
      simpa using free pattern (follows.patterns.mem_iff.mpr ⟨text, listed, read⟩)
    · intro free pattern listed
      obtain ⟨text, member, read⟩ := follows.patterns.mem_iff.mp listed
      simpa using free text member pattern read
  have bySuffix : policy.isTest path = false ↔
      ∀ suffix ∈ settings.testSuffixes, ¬ suffix.toList <:+ path.shownName.toList := by
    rw [isTest, List.any_eq_false, follows.suffixes]
    simp only [List.isSuffixOf_iff_suffix]
  simp only [accepts, Bool.and_eq_true, Bool.not_eq_true', hasExtension, beq_iff_eq, byPattern, bySuffix,
    liesExcluded_eq_false_iff, follows.extension, follows.directories, and_assoc]

end Policy
end HouseStyle
