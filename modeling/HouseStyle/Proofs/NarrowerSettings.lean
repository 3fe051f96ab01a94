import HouseStyle.Proofs.SelectedFiles

/-! Settings that leave more out select no other files.

A policy with more entries accepts less, and the walk of a scan passes more directories over. Named files and changes
are judged one by one, so that less is taken from the same list; which spelling of a file comes first may change, but
not the normal form that is stored. A scan is different, because it looks elsewhere when it has found nothing: what it
finds is less only as long as both settings look in the same place.
-/

set_option autoImplicit false
namespace HouseStyle

/-- The second settings differ from the first only by further entries for what is left out. -/
structure SelectionSettings.NarrowsTo (first second : SelectionSettings) : Prop where
  scanRoots : second.scanRoots = first.scanRoots
  extension : second.extension = first.extension
  directories : first.excludedDirectories ⊆ second.excludedDirectories
  suffixes : first.testSuffixes ⊆ second.testSuffixes
  patterns : first.excluded ⊆ second.excluded

theorem Policy.Follows.accepts_of_narrows {first second : SelectionSettings} {loose strict : Policy}
    (loosely : loose.Follows first) (strictly : strict.Follows second) (narrows : first.NarrowsTo second) {path : Path}
    (accepted : strict.accepts path = true) : loose.accepts path = true := by
  rw [strictly.accepts_iff] at accepted
  obtain ⟨extension, suffixes, outside, free⟩ := accepted
  rw [loosely.accepts_iff]
  refine ⟨by rw [← narrows.extension]; exact extension, ?_, ?_, ?_⟩
  · intro suffix listed
    exact suffixes suffix (narrows.suffixes listed)
  · intro name listed
    exact outside name (narrows.directories listed)
  · intro text listed
    exact free text (narrows.patterns listed)

/-- Of one list less is put in by a stricter test, in whatever order the normal forms come. -/
theorem FileSet.insertAll_filter_subset {strict loose : Path → Bool}
    (weaker : ∀ path, strict path = true → loose path = true) {root other : Option Path} (paths : List Path) :
    (insertAll ⟨root, []⟩ (paths.filter strict)).files ⊆ (insertAll ⟨other, []⟩ (paths.filter loose)).files := by
  intro file member
  obtain ⟨path, present, same⟩ := mem_insertAll.mp member
  obtain ⟨given, taken⟩ := List.mem_filter.mp present
  exact mem_insertAll.mpr ⟨path, List.mem_filter.mpr ⟨given, weaker path taken⟩, same⟩

namespace Selector

/-- The second selector works in the same project, accepts no more than the first and goes into no more
directories. -/
structure NarrowsTo (loose strict : Selector) : Prop where
  root : strict.root = loose.root
  scanRoots : strict.scanRoots = loose.scanRoots
  accepts : ∀ path, strict.policy.accepts path = true → loose.policy.accepts path = true
  passesOver : ∀ directory, loose.policy.isExcludedDirectory directory = true →
    strict.policy.isExcludedDirectory directory = true

theorem narrows_of_settings {root : Path} {first second : SelectionSettings} {loose strict : Selector}
    (validFirst : ofSettings root first = .ok loose) (validSecond : ofSettings root second = .ok strict)
    (narrows : first.NarrowsTo second) : loose.NarrowsTo strict := by
  obtain ⟨rootFirst, scanFirst, builtFirst⟩ := ofSettings_eq_ok validFirst
  obtain ⟨rootSecond, scanSecond, builtSecond⟩ := ofSettings_eq_ok validSecond
  have loosely := Policy.ofSettings_eq_ok_iff.mp builtFirst
  have strictly := Policy.ofSettings_eq_ok_iff.mp builtSecond
  constructor
  · rw [rootFirst, rootSecond]
  · rw [scanFirst, scanSecond, narrows.scanRoots]
  · intro path accepted
    exact loosely.accepts_of_narrows strictly narrows accepted
  · intro directory excluded
    rw [Policy.isExcludedDirectory, List.any_eq_true] at excluded ⊢
    obtain ⟨c, member, listed⟩ := excluded
    refine ⟨c, member, ?_⟩
    cases c with
    | name segment =>
      simp only [Policy.isExcludedName, List.contains_iff_mem, loosely.directories, strictly.directories] at listed ⊢
      exact narrows.directories listed
    | root | here | up => cases listed

/-! The walk -/

section
variable {loose strict : Policy}

mutual

/-- A walk that passes more directories over finds no other files. -/
theorem filesBelow_subset (passesOver : ∀ directory, loose.isExcludedDirectory directory = true →
    strict.isExcludedDirectory directory = true) (path : Path) :
    (entry : Entry) → filesBelow strict path entry ⊆ filesBelow loose path entry
  | .file _ => by simp [filesBelow]
  | .link _ => by simp [filesBelow]
  | .directory entries => by
    intro found member
    simp only [filesBelow, List.mem_flatMap, mem_inOrder] at member ⊢
    obtain ⟨⟨name, files⟩, listed, present⟩ := member
    obtain ⟨more, kept, contained⟩ := filesOfEach_subset passesOver path entries (name, files) listed
    exact ⟨(name, more), kept, contained present⟩

theorem filesOfEach_subset (passesOver : ∀ directory, loose.isExcludedDirectory directory = true →
    strict.isExcludedDirectory directory = true) (path : Path) :
    (entries : List (Path.Segment × Entry)) → ∀ each ∈ filesOfEach strict path entries,
      ∃ more, (each.1, more) ∈ filesOfEach loose path entries ∧ each.2 ⊆ more
  | [] => by simp [filesOfEach]
  | (name, entry) :: rest => by
    intro each member
    rw [filesOfEach, List.mem_cons] at member
    rw [filesOfEach]
    rcases member with rfl | later
    · refine ⟨_, List.mem_cons_self, ?_⟩
      dsimp only
      -- where the strict walk goes in, the loose one does so too
      split
      · exact List.nil_subset _
      · next entered =>
        rw [Bool.and_eq_true, not_and] at entered
        rw [if_neg (by simpa using fun inside excluded => entered inside (passesOver _ excluded))]
        exact filesBelow_subset passesOver (path.join ⟨name⟩) entry
    · obtain ⟨more, kept, contained⟩ := filesOfEach_subset passesOver path rest each later
      exact ⟨more, List.mem_cons_of_mem _ kept, contained⟩

end

end

/-! What a scan holds -/

section
variable {s : Selector} {disk : Disk} {file : Path}

theorem mem_scan_of_found (some : ∃ directory ∈ s.scanRoots, s.found disk directory ≠ []) :
    file ∈ (s.scan disk).files ↔
      ∃ directory ∈ s.scanRoots, ∃ path ∈ s.found disk directory, path.normalize = file := by
  have listed : ∀ file, file ∈ ((s.scanRoots.flatMap (s.found disk)).map Path.normalize).eraseDups ↔
      ∃ directory ∈ s.scanRoots, ∃ path ∈ s.found disk directory, path.normalize = file := by
    intro file
    rw [List.mem_eraseDups, List.mem_map]
    simp only [List.mem_flatMap]
    constructor
    · rintro ⟨path, ⟨directory, scanned, found⟩, same⟩
      exact ⟨directory, scanned, path, found, same⟩
    · rintro ⟨directory, scanned, path, found, same⟩
      exact ⟨path, ⟨directory, scanned, found⟩, same⟩
  obtain ⟨directory, scanned, filled⟩ := some
  obtain ⟨path, found⟩ := List.exists_mem_of_ne_nil _ filled
  have present := (listed path.normalize).mpr ⟨directory, scanned, path, found, rfl⟩
  rw [(scan_eq s disk).2, if_neg (List.ne_nil_of_mem present), listed]

theorem mem_scan_of_nothing (nothing : ∀ directory ∈ s.scanRoots, s.found disk directory = []) :
    file ∈ (s.scan disk).files ↔ ∃ path ∈ s.found disk ".", path.normalize = file := by
  have none : s.scanRoots.flatMap (s.found disk) = [] := List.flatMap_eq_nil_iff.mpr nothing
  rw [(scan_eq s disk).2, none, List.map_nil, List.eraseDups_nil, if_pos rfl, List.mem_eraseDups, List.mem_map]

end

/-! The three ways to select -/

namespace NarrowsTo

variable {loose strict : Selector}

theorem resolve_eq (narrows : loose.NarrowsTo strict) (path : Path) : strict.resolve path = loose.resolve path := by
  rw [resolve, resolve, narrows.root]

theorem relative_eq (narrows : loose.NarrowsTo strict) (path : Path) : strict.relative path = loose.relative path := by
  rw [relative, relative, narrows.root]

theorem takes (narrows : loose.NarrowsTo strict) {disk : Disk} {path : Path} (taken : strict.takes disk path = true) :
    loose.takes disk path = true := by
  rw [Selector.takes, Bool.and_eq_true, narrows.resolve_eq, narrows.relative_eq] at taken
  rw [Selector.takes, Bool.and_eq_true]
  exact ⟨taken.1, narrows.accepts _ taken.2⟩

theorem found_subset (narrows : loose.NarrowsTo strict) (disk : Disk) (directory : Path) :
    strict.found disk directory ⊆ loose.found disk directory := by
  intro file member
  rw [found, narrows.resolve_eq] at member
  rw [found]
  split at member
  · next entries opened =>
    rw [List.mem_filter, List.mem_map] at member
    obtain ⟨⟨path, walked, relative⟩, accepted⟩ := member
    rw [List.mem_filter, List.mem_map]
    refine ⟨⟨path, filesBelow_subset narrows.passesOver _ _ walked, ?_⟩, narrows.accepts _ accepted⟩
    rw [← relative, narrows.relative_eq]
  · cases member

theorem named_subset (narrows : loose.NarrowsTo strict) (disk : Disk) (paths : List Path) :
    (strict.named disk paths).files ⊆ (loose.named disk paths).files := by
  apply FileSet.insertAll_filter_subset
  intro path taken
  exact narrows.takes taken

theorem changes_subset (narrows : loose.NarrowsTo strict) (source : ChangeSource) (base : Option String)
    (calls : List Arguments) :
    ((strict.changes source base).run calls).1.files.files ⊆
      ((loose.changes source base).run calls).1.files.files := by
  obtain ⟨paths, inserted⟩ := changes_insertAll source base calls
  rw [inserted, inserted]
  apply FileSet.insertAll_filter_subset
  exact narrows.accepts

/-- Both scans look below the scan roots, or both look through the project. -/
theorem scan_subset (narrows : loose.NarrowsTo strict) {disk : Disk}
    (steady : (∃ directory ∈ strict.scanRoots, strict.found disk directory ≠ []) ∨
      ∀ directory ∈ loose.scanRoots, loose.found disk directory = []) :
    (strict.scan disk).files ⊆ (loose.scan disk).files := by
  intro file member
  rcases steady with ⟨directory, scanned, filled⟩ | nothing
  · have before : ∃ directory ∈ loose.scanRoots, loose.found disk directory ≠ [] := by
      refine ⟨directory, narrows.scanRoots ▸ scanned, ?_⟩
      intro none
      exact filled (List.subset_nil.mp (none ▸ narrows.found_subset disk directory))
    rw [mem_scan_of_found ⟨directory, scanned, filled⟩] at member
    rw [mem_scan_of_found before]
    obtain ⟨place, listed, path, found, same⟩ := member
    exact ⟨place, narrows.scanRoots ▸ listed, path, narrows.found_subset disk place found, same⟩
  · have still : ∀ directory ∈ strict.scanRoots, strict.found disk directory = [] := by
      intro directory scanned
      rw [narrows.scanRoots] at scanned
      exact List.subset_nil.mp (nothing directory scanned ▸ narrows.found_subset disk directory)
    rw [mem_scan_of_nothing still] at member
    rw [mem_scan_of_nothing nothing]
    obtain ⟨path, found, same⟩ := member
    exact ⟨path, narrows.found_subset disk _ found, same⟩

end NarrowsTo

/-- Settings with further entries for what is left out select only files that were selected before. For named files and
changes this is always so. For a scan it is so if it still finds something below its scan roots, or if it found
nothing there before. -/
theorem selected_subset {root : Path} {first second : SelectionSettings} (narrows : first.NarrowsTo second)
    {loose strict : Selector} (validFirst : ofSettings root first = .ok loose)
    (validSecond : ofSettings root second = .ok strict) (disk : Disk) (source : ChangeSource)
    (calls : List Arguments) :
    (∀ paths, (strict.selected disk source (.named paths) calls).files ⊆
        (loose.selected disk source (.named paths) calls).files) ∧
      (∀ base, (strict.selected disk source (.changes base) calls).files ⊆
        (loose.selected disk source (.changes base) calls).files) ∧
      ((∃ directory ∈ second.scanRoots, strict.found disk directory ≠ []) ∨
          (∀ directory ∈ first.scanRoots, loose.found disk directory = []) →
        (strict.selected disk source .scan calls).files ⊆ (loose.selected disk source .scan calls).files) := by
  have narrower := narrows_of_settings validFirst validSecond narrows
  rw [← (ofSettings_eq_ok validFirst).2.1, ← (ofSettings_eq_ok validSecond).2.1]
  exact ⟨narrower.named_subset disk, fun base => narrower.changes_subset source base calls, narrower.scan_subset⟩

/-- All scripts of the sample project. -/
def sampleScripts : Selector := ⟨"/p", ["src"], ⟨"ts", [], [], []⟩⟩

/-- The same without a directory and a pattern. -/
def fewerScripts : Selector :=
  ⟨"/p", ["src"], ⟨"ts", ["dist"], [], [.anyDirectories :: "b.ts".toList.map .literal]⟩⟩

/-- Of two named files one is left out by the name of its directory; a scan still finds the other. -/
theorem selected_subset_sample :
    let chosen := fun (s : Selector) selection =>
      (s.selected sampleDisk (Git.source fun _ => .error .notFound) selection []).files
    let both := Selection.named ["src/dist/c.ts", "src/a.ts"]
    chosen fewerScripts both = [Path.ofText "src/a.ts"] ∧ chosen fewerScripts both ⊆ chosen sampleScripts both ∧
      Path.ofText "src/a.ts" ∈ fewerScripts.found sampleDisk "src" ∧
      chosen fewerScripts .scan ⊆ chosen sampleScripts .scan := by
  intro chosen both
  have narrows : SelectionSettings.NarrowsTo ⟨["src"], "ts", [], [], [], "package.json"⟩
      ⟨["src"], "ts", ["dist"], [], ["**/b.ts"], "package.json"⟩ := by
    constructor <;> decide
  have validFirst : ofSettings "/p" ⟨["src"], "ts", [], [], [], "package.json"⟩ = .ok sampleScripts := rfl
  have validSecond : ofSettings "/p" ⟨["src"], "ts", ["dist"], [], ["**/b.ts"], "package.json"⟩ =
      .ok fewerScripts := rfl
  obtain ⟨named, _, scanned⟩ :=
    selected_subset narrows validFirst validSecond sampleDisk (Git.source fun _ => .error .notFound) []
  have found : Path.ofText "src/a.ts" ∈ fewerScripts.found sampleDisk "src" := by
    apply (mem_found (by decide +kernel) (by decide) _).mpr
    exact ⟨_, ["a.ts"], rfl, .inside List.mem_cons_self (.file []), by decide +kernel, by decide +kernel⟩
  have still : ∃ directory ∈ [Path.ofText "src"], fewerScripts.found sampleDisk directory ≠ [] :=
    ⟨"src", List.mem_singleton_self _, List.ne_nil_of_mem found⟩
  exact ⟨by decide +kernel, named _, found, scanned (.inl still)⟩

end Selector
end HouseStyle
