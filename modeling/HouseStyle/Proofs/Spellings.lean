import HouseStyle.Proofs.FileSets
import HouseStyle.Proofs.PathJoining
import HouseStyle.Proofs.Policies

/-! One place, many spellings.

Repeated and trailing slashes and dots make any number of spellings of a path, and the normal form is one of them for
all. So a file set that goes by the texts of normal forms goes by components; and a policy without patterns, which
looks at steps alone, cannot tell one spelling from another, nor where a path is put below directories that are not
excluded.
-/

set_option autoImplicit false
namespace HouseStyle

/-! The normal form -/

namespace Path

/-- The components that a normal form keeps: all but the dots. -/
def kept (p : Path) : List Component := p.components.filter (· != .here)

theorem kept_eq (p : Path) : p.kept = p.anchor ++ p.steps := filter_here_components p

theorem isAbsolute_iff_mem_kept (p : Path) : p.isAbsolute = true ↔ .root ∈ p.kept := by
  rw [kept_eq, List.mem_append, anchor]
  constructor
  · intro absolute
    simp [absolute]
  · rintro (start | step)
    · by_contra relative
      simp [relative] at start
    · exact (isStep_of_mem step).elim

/-- The texts of normal forms agree as soon as the components without dots do. -/
theorem normalize_eq_iff_kept (p q : Path) : p.normalize = q.normalize ↔ p.kept = q.kept := by
  rw [normalize_eq_iff]
  constructor
  · rintro ⟨absolute, steps⟩
    rw [kept_eq, kept_eq, anchor, anchor, absolute, steps]
  · intro same
    have absolute : p.isAbsolute = q.isAbsolute := by
      rw [Bool.eq_iff_iff, isAbsolute_iff_mem_kept, isAbsolute_iff_mem_kept, same]
    rw [kept_eq, kept_eq, anchor, anchor, absolute] at same
    exact ⟨absolute, List.append_cancel_left same⟩

/-- Nothing but dots is lost, and where nothing else was there a single dot stands for it. -/
theorem components_normalize (p : Path) : p.normalize.components = if p.kept = [] then [.here] else p.kept := by
  have parts := kept_eq p
  split
  · next none =>
    rw [normalize_eq, ← parts, if_pos none]
    decide
  · next some =>
    have spelled : p.normalize = ofComponents p.kept := by rw [normalize_eq, ← parts, if_neg some]
    cases absolute : p.isAbsolute with
    | true =>
      have start := (isAbsolute_iff_start p.normalize).mp ((isAbsolute_normalize p).trans absolute)
      rw [components_eq, start, steps_normalize, parts, anchor, if_pos absolute]
    | false =>
      have steps : p.kept = p.steps := by rw [parts, anchor, absolute]; rfl
      have noStart := (ofComponents_steps (fun _ => isStep_of_mem) (steps ▸ some)).2.1
      rw [components_eq, steps_normalize, spelled, steps, noStart, List.nil_append]

theorem normalize_eq_dot_iff (p : Path) : p.normalize = "." ↔ p.kept = [] := by
  have dot : (Path.ofText ".").kept = [] := by decide
  have still : (Path.ofText ".").normalize = "." := by decide
  rw [← still, normalize_eq_iff_kept, dot]

end Path

/-! File sets -/

namespace FileSet

/-- What a set holds after the paths were put into it, and what it will do with one more. -/
structure Collected (paths : List Path) (s : FileSet) : Prop where
  files : s.files = (paths.map Path.normalize).eraseDups
  apart : s.files.Pairwise fun first second => first ≠ second ∧ first.same second = false
  isNew : ∀ path, s.isNew path = true ↔ path.normalize ∉ paths.map Path.normalize
  byComponents : ∀ path, s.isNew path = !s.files.any (·.same path.normalize)
  insert : ∀ path, s.insert path =
    if path.normalize ∈ paths.map Path.normalize then s else { s with files := s.files ++ [path.normalize] }

theorem Settled.any_same_iff {s : FileSet} (settled : s.Settled) (path : Path) :
    s.files.any (·.same path.normalize) = true ↔ path.normalize ∈ s.files := by
  rw [List.any_eq_true]
  constructor
  · rintro ⟨file, member, same⟩
    rw [← settled.normal file member, Path.same_normalize_iff, settled.normal file member] at same
    exact same ▸ member
  · intro member
    exact ⟨_, member, (Path.same_normalize_iff path path).mpr rfl⟩

theorem collected (root : Option Path) (paths : List Path) : Collected paths (insertAll ⟨root, []⟩ paths) := by
  have settled := (settled_nil root).insertAll paths
  have files := files_insertAll root paths
  have mem_iff : ∀ path : Path, path.normalize ∈ (insertAll ⟨root, []⟩ paths).files ↔
      path.normalize ∈ paths.map Path.normalize := by
    intro path
    rw [files, List.mem_eraseDups]
  refine ⟨files, ?_, ?_, ?_, ?_⟩
  · exact settled.distinct.and settled.not_same
  · intro path
    rw [isNew_iff, mem_iff]
  · intro path
    rw [Bool.eq_iff_iff, Bool.not_eq_true', Bool.eq_false_iff, ne_eq, settled.any_same_iff, isNew_iff]
  · intro path
    split
    · next known => exact if_neg (mt (isNew_iff _ path).mp (not_not.mpr ((mem_iff path).mpr known)))
    · next new => exact if_pos ((isNew_iff _ path).mpr (mt (mem_iff path).mp new))

/-- Whatever is put into a file set, one path after the other or as a list, it holds the first of each normal form;
and the normal form is one spelling for all paths that have their components but for dots in common. -/
theorem collects_normal_forms (paths : List Path) :
    (Collected paths (ofList paths) ∧ ∀ root, Collected paths ((rooted root).insertAll paths)) ∧
      ∀ path : Path,
        path.normalize.normalize = path.normalize ∧ path.normalize.isAbsolute = path.isAbsolute ∧
          (path.normalize.bytes = Text.bytes "." ↔ path.components.filter (· != .here) = []) ∧
          (path.normalize.components =
            if path.components.filter (· != .here) = [] then [.here] else path.components.filter (· != .here)) ∧
          ∀ other : Path, path.normalize.bytes = other.normalize.bytes ↔
            path.components.filter (· != .here) = other.components.filter (· != .here) := by
  refine ⟨⟨collected none paths, fun root => collected (some root) paths⟩, ?_⟩
  intro path
  refine ⟨path.normalize_normalize, path.isAbsolute_normalize, ?_, path.components_normalize, ?_⟩
  · rw [← Path.mk.injEq]
    exact path.normalize_eq_dot_iff
  · intro other
    rw [← Path.mk.injEq]
    exact path.normalize_eq_iff_kept other

example : (ofList [".//a/./b/", "a/../b", "a/b", ".", "", "//a/b"]).files =
    ["a/b", "a/../b", ".", "/a/b"].map Path.ofText := by decide +kernel

end FileSet

/-! Policies -/

namespace Path

theorem fileName?_eq_of_steps {p q : Path} (same : p.steps = q.steps) : p.fileName? = q.fileName? := by
  by_cases none : q.steps = []
  · -- neither has a name, since a name is the last step
    have nameless : ∀ {r : Path}, r.steps = [] → r.fileName? = Option.none := by
      intro r noSteps
      rw [Option.eq_none_iff_forall_ne_some]
      intro name named
      exact steps_ne_nil_of_fileName? named noSteps
    rw [nameless (same.trans none), nameless none]
  · exact (fileName?_of_suffix (same ▸ List.suffix_rfl) none).symm

theorem start_dropLast (p : Path) : p.start.dropLast = [] := by
  rw [start]
  split
  · rfl
  · split <;> rfl

end Path

namespace Policy

theorem isExcludedDirectory_eq (policy : Policy) (directory : Path) :
    policy.isExcludedDirectory directory = directory.steps.any policy.isExcludedName := by
  rw [isExcludedDirectory, Path.components_eq, List.any_append, any_isExcludedName_start, Bool.false_or]

theorem liesExcluded_eq_of_steps (policy : Policy) {path other : Path} (same : path.steps = other.steps) :
    policy.liesExcluded path = policy.liesExcluded other := by
  by_cases none : other.steps = []
  · have outside : ∀ {p : Path}, p.steps = [] → policy.liesExcluded p = false := by
      intro p noSteps
      rw [liesExcluded, Path.parents, Path.components_eq, noSteps, List.append_nil, Path.start_dropLast]
      rfl
    rw [outside (same.trans none), outside none]
  · rw [liesExcluded_eq policy none, liesExcluded_eq policy (same ▸ none), same]

/-- The steps alone decide whether a path passes. -/
theorem passesByName_eq_of_steps (policy : Policy) {path other : Path} (same : path.steps = other.steps) :
    policy.passesByName path = policy.passesByName other := by
  rw [passesByName, passesByName, hasExtension, hasExtension, isTest, isTest, Path.extension?, Path.extension?,
    Path.shownName, Path.shownName, Path.fileName?_eq_of_steps same, liesExcluded_eq_of_steps policy same]

/-- Below a directory a path passes as before, unless the directory is excluded. -/
theorem passesByName_join (policy : Policy) (directory : Path) {path : Path} (relative : path.isAbsolute = false)
    (filled : path.steps ≠ []) :
    policy.passesByName (directory.join path) =
      (policy.passesByName path && !policy.isExcludedDirectory directory) := by
  have steps := Path.steps_join (p := directory) relative
  have name : path.fileName? = (directory.join path).fileName? :=
    Path.fileName?_of_suffix (steps ▸ List.suffix_append _ _) filled
  have outside : policy.liesExcluded (directory.join path) =
      (policy.isExcludedDirectory directory || policy.liesExcluded path) := by
    rw [liesExcluded_eq policy (by simp [steps, filled]), liesExcluded_eq policy filled, isExcludedDirectory_eq, steps,
      List.dropLast_append_of_ne_nil filled, List.any_append]
  rw [passesByName, passesByName, hasExtension, hasExtension, isTest, isTest, Path.extension?, Path.extension?,
    Path.shownName, Path.shownName, ← name, outside, Bool.not_or, Bool.and_assoc, Bool.and_assoc, Bool.and_assoc]
  congr 2
  rw [Bool.and_comm]

theorem accepts_of_no_patterns {policy : Policy} (noPatterns : policy.excluded = []) (path : Path) :
    policy.accepts path = policy.passesByName path := by
  rw [accepts_eq, isExcluded, noPatterns]
  exact Bool.and_true _

/-- Without patterns a policy judges all spellings of a path alike; and what it accepts it still accepts below a
further directory, unless it excludes that directory. -/
theorem accepts_any_spelling {policy : Policy} (noPatterns : policy.excluded = []) :
    (∀ path other : Path, path.normalize = other.normalize → policy.accepts path = policy.accepts other) ∧
      ∀ directory path : Path, path.isAbsolute = false → policy.accepts path = true →
        (policy.accepts (directory.join path) = true ↔ policy.isExcludedDirectory directory = false) := by
  constructor
  · intro path other same
    rw [accepts_of_no_patterns noPatterns, accepts_of_no_patterns noPatterns]
    exact passesByName_eq_of_steps policy ((Path.normalize_eq_iff path other).mp same).2
  · intro directory path relative accepted
    rw [accepts_of_no_patterns noPatterns] at accepted ⊢
    rw [passesByName_join policy directory relative (steps_ne_nil_of_passesByName accepted), accepted, Bool.true_and,
      Bool.not_eq_true']

/-- Dots and slashes in a file's name and around it, an excluded name as a file, and a directory that is left again. -/
theorem accepts_any_spelling_dotted :
    let policy : Policy := ⟨"ts", ["dist"], [".spec.ts"], []⟩
    policy.accepts ".//src/./dist.ts/." = policy.accepts "src/dist.ts" ∧
      policy.accepts "src/dist.ts" = true ∧
      policy.accepts (Path.join "a/./b//" "src/dist.ts") = true ∧
      ¬ policy.accepts (Path.join "dist/.." "src/dist.ts") = true := by
  intro policy
  obtain ⟨alike, below⟩ := accepts_any_spelling (show policy.excluded = [] from rfl)
  have accepted : policy.accepts "src/dist.ts" = true := by decide +kernel
  have plain := below "a/./b//" "src/dist.ts" (by decide) accepted
  have excluded := below "dist/.." "src/dist.ts" (by decide) accepted
  refine ⟨alike _ _ (by decide +kernel), accepted, plain.mpr (by decide +kernel), ?_⟩
  rw [excluded]
  decide +kernel

end Policy
end HouseStyle
