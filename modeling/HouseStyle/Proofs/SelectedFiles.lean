import HouseStyle.Proofs.Policies
import HouseStyle.Proofs.Scanning

/-! What can be said of every selected file.

The policy sees one spelling of a path and the set holds its normal form, as it was given. So a pattern may
match the stored spelling though it did not match the one that was judged, and a file that is named both
from the project and from the root of the file system is stored twice. Nothing else goes wrong.
-/

set_option autoImplicit false
namespace HouseStyle.Selector

/-! Places in the project -/

/-- Where a stored file lies as seen from the project. -/
def place (s : Selector) (file : Path) : Path := s.relative (s.resolve file)

def Below (s : Selector) (file : Path) : Prop :=
  file.isAbsolute = true ∧ s.root.isAbsolute = true ∧ s.root.steps <+: file.steps

theorem below_normalize_iff (s : Selector) (file : Path) : s.Below file.normalize ↔ s.Below file := by
  simp only [Below, Path.isAbsolute_normalize, Path.steps_normalize]

theorem place_of_relative (s : Selector) {file : Path} (relative : file.isAbsolute = false) :
    s.place file = Path.relativeTo s.root (s.root.join file) := by
  simp only [place, Selector.relative, resolve, relative, Bool.false_eq_true, if_false]

theorem place_of_absolute (s : Selector) {file : Path} (absolute : file.isAbsolute = true) :
    s.place file = Path.relativeTo s.root file := by
  simp only [place, Selector.relative, resolve, absolute, if_true]

theorem place_of_below {s : Selector} {file : Path} (below : s.Below file) :
    (s.place file).isAbsolute = false ∧ (s.place file).steps = file.steps.drop s.root.steps.length := by
  obtain ⟨absolute, rooted, front⟩ := below
  obtain ⟨relative, _, left⟩ := Path.relativeTo_of_absolute absolute rooted front
  rw [place_of_absolute s absolute]
  exact ⟨relative, left⟩

theorem place_of_outside {s : Selector} {file : Path} (absolute : file.isAbsolute = true)
    (outside : ¬ s.Below file) : s.place file = file := by
  rw [place_of_absolute s absolute]
  exact Path.relativeTo_of_outside absolute fun inside => outside ⟨absolute, inside⟩

theorem place_of_not_below {s : Selector} {file : Path} (outside : ¬ s.Below file) :
    (s.place file).isAbsolute = file.isAbsolute ∧ (s.place file).steps = file.steps := by
  cases absolute : file.isAbsolute with
  | true => rw [place_of_outside absolute outside]; exact ⟨absolute, rfl⟩
  | false =>
    rw [place_of_relative s absolute]
    refine ⟨?_, Path.steps_relativeTo_join absolute⟩
    by_cases empty : s.root.bytes = []
    · rw [Path.join_of_empty empty absolute]
      exact Path.isAbsolute_relativeTo absolute
    · exact (Path.relativeTo_join empty absolute).1

theorem place_normalize (s : Selector) (file : Path) :
    (s.place file.normalize).normalize = (s.place file).normalize := by
  rw [Path.normalize_eq_iff]
  by_cases below : s.Below file
  · obtain ⟨relative, left⟩ := place_of_below below
    obtain ⟨normalRelative, normalLeft⟩ := place_of_below ((below_normalize_iff s file).mpr below)
    rw [relative, left, normalRelative, normalLeft, Path.steps_normalize]
    exact ⟨rfl, rfl⟩
  · obtain ⟨absolute, steps⟩ := place_of_not_below below
    obtain ⟨normalAbsolute, normalSteps⟩ := place_of_not_below (mt (below_normalize_iff s file).mp below)
    rw [absolute, steps, normalAbsolute, normalSteps, Path.steps_normalize, Path.isAbsolute_normalize]
    exact ⟨rfl, rfl⟩

theorem steps_place_normalize (s : Selector) (file : Path) :
    (s.place file.normalize).steps = (s.place file).steps :=
  ((Path.normalize_eq_iff _ _).mp (place_normalize s file)).2

theorem steps_place_suffix (s : Selector) (file : Path) : (s.place file).steps <:+ file.steps := by
  by_cases below : s.Below file
  · rw [(place_of_below below).2]
    exact List.drop_suffix _ _
  · simp only [(place_of_not_below below).2, List.suffix_refl]

/-- A normal file has a normal place, unless it is the project itself. -/
theorem normal_place {s : Selector} {file : Path} (normal : file.normalize = file)
    (some : (s.place file).steps ≠ []) : (s.place file).normalize = s.place file := by
  by_cases below : s.Below file
  · rw [(place_of_below below).2] at some
    rw [place_of_absolute s below.1]
    exact Path.normal_relativeTo normal below.1 below.2.1 below.2.2 some
  · cases absolute : file.isAbsolute with
    | true => rw [place_of_outside absolute below, normal]
    | false =>
      rw [(place_of_not_below below).2] at some
      rw [place_of_relative s absolute, Path.relativeTo_join_normal normal absolute some, normal]

theorem resolve_same_root_iff (s : Selector) {file : Path} (some : file.steps ≠ []) :
    (s.resolve file).same s.root = true ↔ (s.place file).steps = [] := by
  by_cases below : s.Below file
  · -- nothing is left of the path just when it has no more steps than the project
    have start := Path.start_of_absolute below.1 below.2.1
    rw [(place_of_below below).2, resolve, if_pos below.1, Path.same_iff, List.drop_eq_nil_iff]
    constructor
    · rintro ⟨_, steps⟩
      exact le_of_eq (congrArg List.length steps)
    · intro short
      exact ⟨start, (below.2.2.eq_of_length_le short).symm⟩
  · rw [(place_of_not_below below).2, Path.same_iff]
    refine iff_of_false ?_ some
    rintro ⟨start, steps⟩
    cases absolute : file.isAbsolute with
    | true =>
      rw [resolve, if_pos absolute] at start steps
      exact below ⟨absolute, (Path.isAbsolute_eq_of_start start).symm.trans absolute, steps ▸ List.prefix_refl _⟩
    | false =>
      rw [resolve_eq_join, Path.steps_join absolute, List.append_right_eq_self] at steps
      exact some steps

/-! Where files come from -/

/-- The files of a selection that starts after the given runs. -/
def selected (s : Selector) (disk : Disk) (source : ChangeSource) (selection : Selection)
    (calls : List Arguments) : FileSet :=
  ((s.selectFrom disk source selection).run calls).1.files

/-- How a path comes to be put in: the spelling that the policy accepted, and the path as it was given. -/
inductive Origin (s : Selector) (disk : Disk) : Selection → Path → Path → Prop where
  | named {paths : List Path} {path : Path} : path ∈ paths → s.takes disk path = true →
      Origin s disk (.named paths) (s.place path) path
  | scan {path found : Path} : found = s.relative path → s.policy.accepts found = true →
      Origin s disk .scan found found
  | changes {base : Option String} {path : Path} : s.policy.accepts path = true →
      Origin s disk (.changes base) path path

theorem origin_of_found {s : Selector} {disk : Disk} {directory found : Path}
    (member : found ∈ s.found disk directory) : Origin s disk .scan found found := by
  rw [Selector.found] at member
  split at member
  · obtain ⟨listed, accepted⟩ := List.mem_filter.mp member
    obtain ⟨path, _, same⟩ := List.mem_map.mp listed
    exact .scan same.symm accepted
  · simp at member

theorem scan_insertAll (s : Selector) (disk : Disk) :
    ∃ paths : List Path, s.scan disk = (FileSet.rooted s.root).insertAll paths ∧
      ∀ path ∈ paths, ∃ directory, path ∈ s.found disk directory := by
  rw [scan]
  split
  · refine ⟨s.scanRoots.flatMap (s.found disk) ++ s.found disk ".", ?_, ?_⟩
    · simp only [FileSet.insertAll, List.foldl_append]
    · intro path member
      rcases List.mem_append.mp member with scanned | project
      · obtain ⟨directory, _, present⟩ := List.mem_flatMap.mp scanned
        exact ⟨directory, present⟩
      · exact ⟨_, project⟩
  · refine ⟨s.scanRoots.flatMap (s.found disk), rfl, ?_⟩
    intro path member
    obtain ⟨directory, _, present⟩ := List.mem_flatMap.mp member
    exact ⟨directory, present⟩

/-- Which changes are reported does not depend on who asks. -/
theorem changes_insertAll (source : ChangeSource) (base : Option String) (calls : List Arguments) :
    ∃ paths : List Path, ∀ s : Selector, ((s.changes source base).run calls).1.files =
      (FileSet.rooted s.root).insertAll (paths.filter s.policy.accepts) := by
  cases asked : source.isRepository.run calls with
  | mk known later =>
    simp only [changes, StateT.run_bind, asked]
    cases known with
    | false => exact ⟨[], fun _ => rfl⟩
    -- whatever the answers are, the paths in them are put in one after the other
    | true => exact ⟨((changedFiles source base).run later).1.1, fun _ => rfl⟩

/-- Every selection is one run of insertions into the empty set of the project. -/
theorem selected_insertAll (s : Selector) (disk : Disk) (source : ChangeSource) (selection : Selection)
    (calls : List Arguments) :
    ∃ paths : List Path, s.selected disk source selection calls = (FileSet.rooted s.root).insertAll paths ∧
      ∀ path ∈ paths, ∃ judged, Origin s disk selection judged path := by
  cases selection with
  | named paths =>
    refine ⟨paths.filter (s.takes disk), rfl, ?_⟩
    intro path member
    obtain ⟨given, taken⟩ := List.mem_filter.mp member
    exact ⟨_, .named given taken⟩
  | scan =>
    obtain ⟨paths, inserted, found⟩ := scan_insertAll s disk
    refine ⟨paths, inserted, ?_⟩
    intro path member
    obtain ⟨_, present⟩ := found path member
    exact ⟨path, origin_of_found present⟩
  | changes base =>
    obtain ⟨paths, inserted⟩ := changes_insertAll source base calls
    refine ⟨_, inserted s, ?_⟩
    intro path member
    exact ⟨path, .changes (List.mem_filter.mp member).2⟩

section
variable {s : Selector} {disk : Disk} {source : ChangeSource} {selection : Selection} {calls : List Arguments}

theorem settled_selected : (s.selected disk source selection calls).Settled := by
  obtain ⟨paths, inserted, _⟩ := selected_insertAll s disk source selection calls
  rw [inserted]
  exact (FileSet.settled_nil _).insertAll paths

theorem resolve_selected (file : Path) :
    (s.selected disk source selection calls).resolve file = s.resolve file := by
  obtain ⟨paths, inserted, _⟩ := selected_insertAll s disk source selection calls
  rw [inserted, FileSet.resolve, FileSet.root_insertAll]
  rfl

theorem exists_origin {file : Path} (member : file ∈ (s.selected disk source selection calls).files) :
    ∃ judged given, Origin s disk selection judged given ∧ given.normalize = file := by
  obtain ⟨paths, inserted, origins⟩ := selected_insertAll s disk source selection calls
  rw [inserted] at member
  obtain ⟨given, present, normal⟩ := FileSet.mem_insertAll.mp member
  obtain ⟨judged, origin⟩ := origins given present
  exact ⟨judged, given, origin, normal⟩

variable {judged given : Path}

theorem Origin.accepted (origin : Origin s disk selection judged given) : s.policy.accepts judged = true := by
  cases origin with
  | named _ taken =>
    rw [takes, Bool.and_eq_true] at taken
    exact taken.2
  | scan _ accepted => exact accepted
  | changes accepted => exact accepted

theorem Origin.passes (origin : Origin s disk selection judged given) :
    s.policy.passesByName judged = true :=
  ((s.policy.accepts_iff judged).mp origin.accepted).1

theorem Origin.steps_ne_nil (origin : Origin s disk selection judged given) : given.steps ≠ [] := by
  have some := Policy.steps_ne_nil_of_passesByName origin.passes
  cases origin with
  | named =>
    intro none
    have suffix := steps_place_suffix s given
    rw [none, List.suffix_nil] at suffix
    exact some suffix
  | scan => exact some
  | changes => exact some

theorem Origin.place_suffix (origin : Origin s disk selection judged given) :
    (s.place given.normalize).steps <:+ judged.steps := by
  rw [steps_place_normalize]
  cases origin with
  | named => exact List.suffix_refl _
  | scan => exact steps_place_suffix s _
  | changes => exact steps_place_suffix s _

theorem not_below_relative (s : Selector) (path : Path) : ¬ s.Below (s.relative path) := by
  -- a path through the project loses it and is relative; any other stays as it is
  intro below
  by_cases through : s.Below path
  · have relative := (Path.relativeTo_of_absolute through.1 through.2.1 through.2.2).1
    exact absurd below.1 (by rw [Selector.relative, relative]; decide)
  · cases absolute : path.isAbsolute with
    | true =>
      have unchanged := Path.relativeTo_of_outside absolute fun inside => through ⟨absolute, inside⟩
      rw [Selector.relative, unchanged] at below
      exact through below
    | false =>
      have relative := @Path.isAbsolute_relativeTo s.root path absolute
      exact absurd below.1 (by rw [Selector.relative, relative]; decide)

theorem Origin.not_below_of_scan (origin : Origin s disk .scan judged given) : ¬ s.Below given := by
  cases origin with
  | scan found _ =>
    rw [found]
    exact not_below_relative s _

/-- Unless a change was reported by an absolute path, a stored file lies at the normal form of what the
policy has seen. -/
theorem Origin.place_eq (origin : Origin s disk selection judged given)
    (known : ∀ base, selection = .changes base → judged.isAbsolute = false) :
    s.place given.normalize = judged.normalize := by
  have some := Policy.steps_ne_nil_of_passesByName origin.passes
  have spelled : (s.place given).normalize = judged.normalize := by
    cases origin with
    | named => rfl
    | scan found _ =>
      rw [Path.normalize_eq_iff]
      exact place_of_not_below (found ▸ not_below_relative s _)
    | changes =>
      rw [Path.normalize_eq_iff]
      have relative := known _ rfl
      exact place_of_not_below fun below => by simp [below.1] at relative
  -- the policy wants an extension, so there is a step
  have filled : (s.place given.normalize).steps ≠ [] := by
    rwa [steps_place_normalize, ((Path.normalize_eq_iff _ _).mp spelled).2]
  calc s.place given.normalize
    _ = (s.place given.normalize).normalize := (normal_place given.normalize_normalize filled).symm
    _ = (s.place given).normalize := place_normalize s given
    _ = judged.normalize := spelled

/-! Verdicts -/

/-- A stored file keeps every verdict of the policy but those of its patterns, so that it is still accepted
just when no pattern matches the place it is stored at. That place is the normal form of the spelling that
was judged. The exception is a change that is reported by an absolute path, which may even be that of the
project. -/
theorem selected_accepted_iff {file : Path} (member : file ∈ (s.selected disk source selection calls).files) :
    ((s.resolve file).same s.root = false → s.policy.passesByName (s.place file) = true) ∧
      (s.policy.accepts (s.place file) = true ↔
        s.policy.isExcluded (s.place file) = false ∧ (s.resolve file).same s.root = false) ∧
      ∃ judged given, Origin s disk selection judged given ∧ given.normalize = file ∧
        s.policy.accepts judged = true ∧
        ((∀ base, selection = .changes base → judged.isAbsolute = false) →
          s.place file = judged.normalize ∧ (s.resolve file).same s.root = false) := by
  obtain ⟨judged, given, origin, rfl⟩ := exists_origin member
  have atRoot := @resolve_same_root_iff s given.normalize (by simpa using origin.steps_ne_nil)
  have passes : (s.resolve given.normalize).same s.root = false →
      s.policy.passesByName (s.place given.normalize) = true := by
    intro apart
    apply Policy.passesByName_of_suffix origin.place_suffix _ origin.passes
    intro none
    rw [atRoot.mpr none] at apart
    cases apart
  refine ⟨passes, ?_, judged, given, origin, rfl, origin.accepted, ?_⟩
  · rw [Policy.accepts_iff]
    constructor
    · rintro ⟨passing, free⟩
      refine ⟨free, ?_⟩
      rw [Bool.eq_false_iff, ne_eq, atRoot]
      exact Policy.steps_ne_nil_of_passesByName passing
    · rintro ⟨free, apart⟩
      exact ⟨passes apart, free⟩
  · intro known
    have place := origin.place_eq known
    refine ⟨place, ?_⟩
    rw [Bool.eq_false_iff, ne_eq, atRoot, place, Path.steps_normalize]
    exact Policy.steps_ne_nil_of_passesByName origin.passes

/-- A project with one file, in a directory of generated ones. -/
def generatedDisk : Disk :=
  ⟨.directory [("p", .directory [("src", .directory [("gen", .directory [("A.ts", .file [])])])])], []⟩

/-- What the settings of a project say that leaves generated files out. -/
def withoutGenerated : Selector where
  root := "/p"
  scanRoots := ["src"]
  policy := ⟨"ts", [], [], ["src/gen/".toList.map .literal ++ [.anyDirectories]]⟩

/-- A second slash leads past the pattern, and is gone from what is stored. -/
theorem selected_accepted_iff_slashes :
    ofSettings "/p" ⟨["src"], ".ts", [], [], ["src/gen/**"], "package.json"⟩ = .ok withoutGenerated ∧
      let files := withoutGenerated.selected generatedDisk (Git.source fun _ => .error .notFound)
        (.named ["src//gen/A.ts"]) []
      Path.ofText "src/gen/A.ts" ∈ files.files ∧
        withoutGenerated.policy.passesByName (withoutGenerated.place "src/gen/A.ts") = true ∧
        withoutGenerated.policy.accepts (withoutGenerated.place "src/gen/A.ts") = false := by
  refine ⟨rfl, ?_⟩
  intro files
  have member : Path.ofText "src/gen/A.ts" ∈ files.files := by decide +kernel
  obtain ⟨passes, accepted, _⟩ := selected_accepted_iff member
  refine ⟨member, passes (by decide +kernel), ?_⟩
  rw [Bool.eq_false_iff, ne_eq, accepted]
  rintro ⟨free, _⟩
  exact absurd free (by decide +kernel)

end

/-! Files that are stored twice -/

/-- The second path is absolute and leads to what the first one names from the project. -/
def Doubles (s : Selector) (first second : Path) : Prop :=
  first.isAbsolute = false ∧ s.Below second ∧ s.place second = first

section
variable {s : Selector} {first second : Path}

theorem start_resolve_of_rooted (relative : first.isAbsolute = false) (rooted : s.root.isAbsolute = true) :
    (s.resolve first).start = s.root.start := by
  rw [resolve_eq_join]
  exact Path.start_join (Path.bytes_ne_of_absolute rooted) relative

theorem rooted_of_resolve (relative : first.isAbsolute = false)
    (absolute : (s.resolve first).isAbsolute = true) : s.root.isAbsolute = true := by
  rw [resolve_eq_join] at absolute
  by_cases empty : s.root.bytes = []
  · rw [Path.join_of_empty empty relative, relative] at absolute
    cases absolute
  · rwa [Path.isAbsolute_join empty relative] at absolute

theorem steps_resolve_of_relative (relative : first.isAbsolute = false) :
    (s.resolve first).steps = s.root.steps ++ first.steps := by
  rw [resolve_eq_join, Path.steps_join relative]

/-- A relative and an absolute path are read from one place just when one doubles the other. -/
theorem resolve_same_iff_doubles (normal : first.normalize = first) (some : first.steps ≠ [])
    (otherNormal : second.normalize = second)
    (relative : first.isAbsolute = false) (absolute : second.isAbsolute = true) :
    (s.resolve first).same (s.resolve second) = true ↔ s.Doubles first second := by
  have direct : s.resolve second = second := if_pos absolute
  rw [direct, Path.same_iff, steps_resolve_of_relative relative]
  constructor
  · rintro ⟨start, steps⟩
    have rooted := rooted_of_resolve relative ((Path.isAbsolute_eq_of_start start).trans absolute)
    -- the steps of the project come first in the absolute path, and those of the relative one follow
    have below : s.Below second := ⟨absolute, rooted, steps ▸ List.prefix_append _ _⟩
    obtain ⟨placed, left⟩ := place_of_below below
    rw [← steps, List.drop_left] at left
    refine ⟨relative, below, ?_⟩
    rw [← normal_place otherNormal (by rwa [left]), ← normal, Path.normalize_eq_iff]
    exact ⟨placed.trans relative.symm, left⟩
  · rintro ⟨_, below, placed⟩
    have left := (place_of_below below).2
    rw [placed] at left
    refine ⟨?_, ?_⟩
    · exact (start_resolve_of_rooted relative below.2.1).trans (Path.start_of_absolute below.2.1 absolute)
    · rw [left]
      obtain ⟨back, whole⟩ := below.2.2
      rw [← whole, List.drop_left]

theorem eq_of_resolve_same (normal : first.normalize = first) (otherNormal : second.normalize = second)
    (like : first.isAbsolute = second.isAbsolute) (same : (s.resolve first).same (s.resolve second) = true) :
    first = second := by
  rw [← normal, ← otherNormal, Path.normalize_eq_iff]
  refine ⟨like, ?_⟩
  have steps := ((Path.same_iff _ _).mp same).2
  cases absolute : second.isAbsolute with
  | true => rwa [resolve, resolve, if_pos absolute, if_pos (like.trans absolute)] at steps
  | false =>
    rw [steps_resolve_of_relative absolute, steps_resolve_of_relative (like.trans absolute)] at steps
    exact List.append_cancel_left steps

theorem resolve_same_iff (normal : first.normalize = first) (otherNormal : second.normalize = second)
    (some : first.steps ≠ []) (otherSome : second.steps ≠ []) (differ : first ≠ second) :
    (s.resolve first).same (s.resolve second) = true ↔ s.Doubles first second ∨ s.Doubles second first := by
  -- one relative and one absolute path can double each other, two of a kind would be equal
  cases absolute : first.isAbsolute with
  | true =>
    have notFirst : ¬ s.Doubles first second := fun ⟨relative, _⟩ => by simp [absolute] at relative
    rw [or_iff_right notFirst]
    cases other : second.isAbsolute with
    | true =>
      have like := absolute.trans other.symm
      exact iff_of_false (mt (eq_of_resolve_same normal otherNormal like) differ)
        fun ⟨relative, _⟩ => by simp [other] at relative
    | false =>
      rw [Path.same_comm]
      exact resolve_same_iff_doubles otherNormal otherSome normal other absolute
  | false =>
    have notSecond : ¬ s.Doubles second first := fun ⟨_, ⟨through, _⟩, _⟩ => by simp [absolute] at through
    rw [or_iff_left notSecond]
    cases other : second.isAbsolute with
    | true => exact resolve_same_iff_doubles normal some otherNormal absolute other
    | false =>
      have like := absolute.trans other.symm
      exact iff_of_false (mt (eq_of_resolve_same normal otherNormal like) differ)
        fun ⟨_, ⟨through, _⟩, _⟩ => by simp [other] at through

end

section
variable {s : Selector} {disk : Disk} {source : ChangeSource} {selection : Selection} {calls : List Arguments}

theorem steps_ne_nil_of_selected {file : Path}
    (member : file ∈ (s.selected disk source selection calls).files) : file.steps ≠ [] := by
  obtain ⟨_, given, origin, rfl⟩ := exists_origin member
  simpa using origin.steps_ne_nil

/-- Two entries are read from one place just when one of them is absolute and the other is the same file as
seen from the project. A scan never stores such a pair. -/
theorem selected_twice_iff {first second : Path}
    (firstIn : first ∈ (s.selected disk source selection calls).files)
    (secondIn : second ∈ (s.selected disk source selection calls).files) (differ : first ≠ second) :
    let files := s.selected disk source selection calls
    ((files.resolve first).same (files.resolve second) = true ↔
        s.Doubles first second ∨ s.Doubles second first) ∧
      (selection = .scan → (files.resolve first).same (files.resolve second) = false) := by
  intro files
  have normal := settled_selected.normal first firstIn
  have otherNormal := settled_selected.normal second secondIn
  have some := steps_ne_nil_of_selected firstIn
  have otherSome := steps_ne_nil_of_selected secondIn
  have twice : (files.resolve first).same (files.resolve second) = true ↔
      s.Doubles first second ∨ s.Doubles second first := by
    rw [resolve_selected, resolve_selected]
    exact resolve_same_iff normal otherNormal some otherSome differ
  refine ⟨twice, ?_⟩
  rintro rfl
  rw [Bool.eq_false_iff, ne_eq, twice]
  have outside : ∀ file ∈ files.files, ¬ s.Below file := by
    intro file member
    obtain ⟨_, given, origin, rfl⟩ := exists_origin member
    rw [below_normalize_iff]
    exact origin.not_below_of_scan
  rintro (double | double)
  · exact outside second secondIn double.2.1
  · exact outside first firstIn double.2.1

/-- One file, named from the project and from the root. -/
theorem selected_twice_iff_both_ways :
    ∃ s, ofSettings "/p" {} = .ok s ∧
      let files := s.selected generatedDisk (Git.source fun _ => .error .notFound)
        (.named ["src/gen/A.ts", "/p/src/gen/A.ts"]) []
      files.files = [Path.ofText "src/gen/A.ts", "/p/src/gen/A.ts"] ∧
        (files.resolve "src/gen/A.ts").same (files.resolve "/p/src/gen/A.ts") = true := by
  refine ⟨_, rfl, ?_⟩
  intro files
  have both : files.files = [Path.ofText "src/gen/A.ts", "/p/src/gen/A.ts"] := by decide +kernel
  have first : Path.ofText "src/gen/A.ts" ∈ files.files := by simp [both]
  have second : Path.ofText "/p/src/gen/A.ts" ∈ files.files := by simp [both]
  refine ⟨both, (selected_twice_iff first second (by decide)).1.mpr (Or.inl ⟨by decide, ?_, by decide +kernel⟩)⟩
  exact ⟨by decide, by decide, by decide +kernel⟩

end

end HouseStyle.Selector
