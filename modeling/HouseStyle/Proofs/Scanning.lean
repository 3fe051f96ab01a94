import HouseStyle.Proofs.Disks
import HouseStyle.Proofs.FileSets
import HouseStyle.Proofs.PathJoining
import HouseStyle.Selection.Selector
import Mathlib.Data.List.Lex
import Mathlib.Data.List.Sort

/-! A scan finds exactly the accepted files of a tree.

The walk leaves out directories by their names, while the policy judges whole paths. Both agree because a
name below a scan root stays a component of the path that the policy sees.
-/

set_option autoImplicit false
namespace HouseStyle

open HouseStyle.Path (IsName Segment)

namespace Entry

/-- Every directory lists proper names, each of them once. -/
inductive WellFormed : Entry → Prop where
  | file (content : Text.Bytes) : WellFormed (.file content)
  | link (target : Path) : WellFormed (.link target)
  | directory {entries : List (Segment × Entry)} : (entries.map Prod.fst).Nodup →
      (∀ listed ∈ entries, IsName listed.1) → (∀ listed ∈ entries, WellFormed listed.2) →
      WellFormed (.directory entries)

mutual

def decideWellFormed : (entry : Entry) → Decidable entry.WellFormed
  | .file content => .isTrue (.file content)
  | .link target => .isTrue (.link target)
  | .directory entries =>
    haveI := decideEach entries
    decidable_of_iff ((entries.map Prod.fst).Nodup ∧ (∀ listed ∈ entries, IsName listed.1) ∧
        ∀ listed ∈ entries, listed.2.WellFormed)
      ⟨fun ⟨distinct, named, inside⟩ => .directory distinct named inside,
        fun | .directory distinct named inside => ⟨distinct, named, inside⟩⟩

def decideEach : (entries : List (Segment × Entry)) → Decidable (∀ listed ∈ entries, listed.2.WellFormed)
  | [] => .isTrue (by simp)
  | (_, entry) :: rest =>
    haveI := decideWellFormed entry
    haveI := decideEach rest
    decidable_of_iff (entry.WellFormed ∧ ∀ listed ∈ rest, listed.2.WellFormed) (by simp)

end

instance (entry : Entry) : Decidable entry.WellFormed := decideWellFormed entry

/-- The names lead through directories, and through nothing else, to a regular file. -/
inductive Holds : Entry → Location → Prop where
  | file (content : Text.Bytes) : Holds (.file content) []
  | inside {entries : List (Segment × Entry)} {name : Segment} {entry : Entry} {names : Location} :
      (name, entry) ∈ entries → Holds entry names → Holds (.directory entries) (name :: names)

theorem WellFormed.get? {entry inner : Entry} (tree : entry.WellFormed) {name : Segment}
    (found : entry.get? name = some inner) : inner.WellFormed := by
  rw [Entry.get?, Option.map_eq_some_iff] at found
  obtain ⟨listed, looked, rfl⟩ := found
  have member := List.mem_of_find?_eq_some looked
  cases tree with
  | file => simp [Entry.entries] at member
  | link => simp [Entry.entries] at member
  | directory distinct named inside => exact inside listed member

theorem WellFormed.holds_names {entry : Entry} (tree : entry.WellFormed) {names : Location}
    (holds : entry.Holds names) : ∀ name ∈ names, IsName name := by
  induction holds with
  | file => simp
  | inside member holds ih =>
    cases tree with
    | directory distinct named inside =>
      intro name present
      rcases List.mem_cons.mp present with rfl | later
      · exact named _ member
      · exact ih (inside _ member) name later

end Entry

theorem Disk.wellFormed_open {disk : Disk} (tree : disk.root.WellFormed) {path : Path} {entry : Entry}
    (opened : disk.open? path = .ok entry) : entry.WellFormed := by
  obtain ⟨location, held⟩ := exists_lookup_of_open? opened
  exact lookup_inherits Entry.WellFormed tree (fun sound inside => sound.get? inside) held

/-- The bytes of a path's components, one component after the other. -/
def Path.key (p : Path) : List Text.Bytes :=
  p.components.map Path.Component.segment

theorem Path.key_descend (path : Path) {names : List Segment} (areNames : ∀ name ∈ names, IsName name) :
    (path.descend names).key = path.key ++ names := by
  obtain ⟨start, steps⟩ := Path.components_descend path areNames
  rw [key, components_eq, start, steps, key, components_eq, List.map_append, List.map_append,
    List.map_append, List.map_map, List.append_assoc]
  exact congrArg _ (congrArg _ (List.map_id names))

namespace Selector

/-! The walk -/

theorem isExcludedDirectory_name (policy : Policy) {name : Segment} (isName : IsName name) :
    policy.isExcludedDirectory ⟨name⟩ = policy.excludedDirectories.contains (Text.decodeLossy name) := by
  obtain ⟨_, noStart, one⟩ := Path.ofName isName
  simp [Policy.isExcludedDirectory, Path.components_eq, noStart, one, Policy.isExcludedName]

theorem filesOfEach_eq_map (policy : Policy) (path : Path) (entries : List (Segment × Entry)) :
    filesOfEach policy path entries = entries.map fun listed =>
      (listed.1, if listed.2.isDirectory && policy.isExcludedDirectory ⟨listed.1⟩ then []
        else filesBelow policy (path.join ⟨listed.1⟩) listed.2) := by
  induction entries with
  | nil => simp [filesOfEach]
  | cons listed rest ih => simp [filesOfEach, ih]

/-- No name before the last is that of an excluded directory. -/
def Unpruned (policy : Policy) (names : Location) : Prop :=
  ∀ name ∈ names.dropLast, policy.excludedDirectories.contains (Text.decodeLossy name) = false

theorem mem_inOrder {α : Type} {listed : Segment × α} {entries : List (Segment × α)} :
    listed ∈ inOrder entries ↔ listed ∈ entries := List.mem_mergeSort

theorem unpruned_cons (policy : Policy) {entry : Entry} {name : Segment} {names : Location}
    (holds : entry.Holds names) :
    Unpruned policy (name :: names) ↔
      (entry.isDirectory && policy.excludedDirectories.contains (Text.decodeLossy name)) = false ∧
        Unpruned policy names := by
  -- only the name of a directory is followed by another one
  cases holds with
  | file content => simp [Unpruned, Entry.isDirectory]
  | inside member holds => simp [Unpruned, Entry.isDirectory, List.dropLast]

theorem mem_filesBelow (policy : Policy) {entry : Entry} (tree : entry.WellFormed) (path found : Path) :
    found ∈ filesBelow policy path entry ↔
      ∃ names, entry.Holds names ∧ Unpruned policy names ∧ found = path.descend names := by
  induction tree generalizing path with
  | file content =>
    simp only [filesBelow, List.mem_singleton]
    constructor
    · rintro rfl
      exact ⟨[], .file content, by simp [Unpruned], rfl⟩
    · rintro ⟨names, holds, _, rfl⟩
      cases holds
      rfl
  | link target =>
    simp only [filesBelow, List.not_mem_nil, false_iff]
    rintro ⟨names, holds, _⟩
    cases holds
  | @directory entries distinct named inside ih =>
    simp only [filesBelow, List.mem_flatMap, mem_inOrder, filesOfEach_eq_map, List.mem_map]
    constructor
    · -- the walk went into this entry, so its name is not an excluded directory's
      rintro ⟨_, ⟨⟨name, entry⟩, member, rfl⟩, below⟩
      simp only [isExcludedDirectory_name policy (named _ member)] at below
      split at below
      · simp at below
      · next kept =>
        obtain ⟨names, holds, unpruned, rfl⟩ := (ih _ member (path.join ⟨name⟩)).mp below
        have whole : Unpruned policy (name :: names) :=
          (unpruned_cons policy holds).mpr ⟨by simpa using kept, unpruned⟩
        exact ⟨name :: names, .inside member holds, whole, rfl⟩
    · rintro ⟨names, holds, unpruned, rfl⟩
      cases holds with
      | @inside _ name entry names member holds =>
        obtain ⟨kept, further⟩ := (unpruned_cons policy holds).mp unpruned
        refine ⟨_, ⟨(name, entry), member, rfl⟩, ?_⟩
        simp only [isExcludedDirectory_name policy (named _ member), kept, Bool.false_eq_true, if_false]
        exact (ih _ member (path.join ⟨name⟩)).mpr ⟨names, holds, further, rfl⟩

/-! The order of the walk -/

theorem pairwise_inOrder {α : Type} {entries : List (Segment × α)} (distinct : (entries.map Prod.fst).Nodup) :
    (inOrder entries).Pairwise fun first second => first.1 < second.1 := by
  have sorted : (inOrder entries).Pairwise fun first second => decide (first.1 ≤ second.1) = true := by
    apply List.pairwise_mergeSort
    · intro first second third before after
      exact decide_eq_true (List.le_trans (of_decide_eq_true before) (of_decide_eq_true after))
    · intro first second
      simpa using List.le_total first.1 second.1
  have apart : (inOrder entries).Pairwise fun first second => first.1 ≠ second.1 := by
    have perm := (List.mergeSort_perm entries fun a b => a.1 ≤ b.1).map Prod.fst
    exact List.pairwise_map.mp (perm.nodup_iff.mpr distinct)
  refine (sorted.and apart).imp ?_
  rintro first second ⟨before, differ⟩
  exact Std.lt_of_le_of_ne (of_decide_eq_true before) differ

theorem key_of_mem_filesOfEach {policy : Policy} {path found : Path} {entries : List (Segment × Entry)}
    (named : ∀ listed ∈ entries, IsName listed.1) (inside : ∀ listed ∈ entries, listed.2.WellFormed)
    {each : Segment × List Path} (member : each ∈ filesOfEach policy path entries) (present : found ∈ each.2) :
    ∃ rest, found.key = path.key ++ each.1 :: rest := by
  rw [filesOfEach_eq_map] at member
  obtain ⟨⟨name, entry⟩, listed, rfl⟩ := List.mem_map.mp member
  dsimp only at present
  split at present
  · simp at present
  · obtain ⟨names, holds, _, rfl⟩ := (mem_filesBelow policy (inside _ listed) _ _).mp present
    have areNames : ∀ other ∈ name :: names, IsName other :=
      List.forall_mem_cons.mpr ⟨named _ listed, (inside _ listed).holds_names holds⟩
    have whole := Path.key_descend path areNames
    rw [Path.descend_cons] at whole
    exact ⟨names, whole⟩

theorem pairwise_filesBelow (policy : Policy) {entry : Entry} (tree : entry.WellFormed) (path : Path) :
    (filesBelow policy path entry).Pairwise fun first second => first.key < second.key := by
  induction tree generalizing path with
  | file content => simp [filesBelow]
  | link target => simp [filesBelow]
  | @directory entries distinct named inside ih =>
    rw [filesBelow, List.pairwise_flatMap]
    have names : ((filesOfEach policy path entries).map Prod.fst).Nodup := by
      rw [filesOfEach_eq_map, List.map_map]
      exact distinct
    constructor
    · intro each member
      rw [mem_inOrder, filesOfEach_eq_map] at member
      obtain ⟨listed, present, rfl⟩ := List.mem_map.mp member
      dsimp only
      split
      · exact List.Pairwise.nil
      · exact ih listed present _
    · -- files of different entries differ at the names of the entries
      refine (pairwise_inOrder names).imp_of_mem ?_
      intro first second firstIn secondIn before found foundIn other otherIn
      obtain ⟨front, spelled⟩ := key_of_mem_filesOfEach named inside (mem_inOrder.mp firstIn) foundIn
      obtain ⟨back, otherSpelled⟩ := key_of_mem_filesOfEach named inside (mem_inOrder.mp secondIn) otherIn
      rw [spelled, otherSpelled]
      exact List.append_left_lt (List.cons_lt_cons_iff.mpr (Or.inl before))

theorem eq_of_mem_iff {first second : List Path}
    (firstOrder : first.Pairwise fun p q => p.key < q.key)
    (secondOrder : second.Pairwise fun p q => p.key < q.key) (same : ∀ p, p ∈ first ↔ p ∈ second) :
    first = second := by
  have differ : ∀ {p q : Path}, p.key < q.key → p ≠ q := by
    rintro p q before rfl
    exact List.lt_irrefl _ before
  have perm : first.Perm second :=
    (List.perm_ext_iff_of_nodup (firstOrder.imp differ) (secondOrder.imp differ)).mpr same
  exact perm.eq_of_pairwise (fun _ _ _ _ before after => (List.lt_asymm before after).elim)
    firstOrder secondOrder

/-! One scan root -/

theorem resolve_eq_join (s : Selector) (path : Path) : s.resolve path = s.root.join path := by
  rw [resolve]
  split
  · next absolute => rw [Path.join_of_absolute _ absolute]
  · rfl

/-- What a walk that leaves no directory out lists below a scan root. -/
def everyFile (s : Selector) (disk : Disk) (directory : Path) : List Path :=
  match disk.open? (s.resolve directory) with
  | .ok (.directory entries) =>
    (filesBelow { s.policy with excludedDirectories := [] } (s.resolve directory) (.directory entries)).map
      s.relative
  | _ => []

section
variable {s : Selector} {disk : Disk} {directory : Path}

/-- The path, as the project knows it, of what the names lead to below a scan root. -/
def reported (s : Selector) (directory : Path) (names : Location) : Path :=
  s.relative ((s.root.join directory).descend names)

theorem components_reported (relative : directory.isAbsolute = false) {names : Location}
    (areNames : ∀ name ∈ names, IsName name) (some : names ≠ []) :
    (s.reported directory names).components =
      (if s.root.bytes = [] then directory.components else directory.steps) ++ names.map .name :=
  Path.components_relativeTo_descend relative areNames some

/-- Pruning agrees with the policy: an accepted file lies in no directory that the walk leaves out. -/
theorem unpruned_of_accepts (relative : directory.isAbsolute = false) {names : Location}
    (areNames : ∀ name ∈ names, IsName name) (some : names ≠ [])
    (accepted : s.policy.accepts (s.reported directory names) = true) : Unpruned s.policy names := by
  intro name member
  simp only [Policy.accepts, Bool.and_eq_true, Bool.not_eq_true'] at accepted
  have outside := accepted.1.2
  rw [Policy.liesExcluded, Path.parents, components_reported relative areNames some,
    List.dropLast_append_of_ne_nil (by simpa using some), ← List.map_dropLast, List.any_eq_false] at outside
  have free := outside (.name name) (List.mem_append_right _ (List.mem_map_of_mem member))
  simpa [Policy.isExcludedName] using free

theorem ne_nil_of_holds {entries : List (Segment × Entry)} {names : Location}
    (holds : (Entry.directory entries).Holds names) : names ≠ [] := by
  cases holds
  simp

theorem mem_map_relative (walk : Policy) {entries : List (Segment × Entry)}
    (tree : (Entry.directory entries).WellFormed) (p : Path) :
    p ∈ (filesBelow walk (s.root.join directory) (.directory entries)).map s.relative ↔
      ∃ names, (Entry.directory entries).Holds names ∧ Unpruned walk names ∧
        p = s.reported directory names := by
  simp only [List.mem_map, mem_filesBelow walk tree]
  constructor
  · rintro ⟨_, ⟨names, holds, unpruned, rfl⟩, rfl⟩
    exact ⟨names, holds, unpruned, rfl⟩
  · rintro ⟨names, holds, unpruned, rfl⟩
    exact ⟨_, ⟨names, holds, unpruned, rfl⟩, rfl⟩

theorem append_lt_cancel {front first second : List Text.Bytes} (less : front ++ first < front ++ second) :
    first < second := by
  induction front with
  | nil => exact less
  | cons piece rest ih =>
    rcases List.cons_lt_cons_iff.mp less with impossible | ⟨_, later⟩
    · exact (List.lt_irrefl _ impossible).elim
    · exact ih later

theorem pairwise_map_relative (walk : Policy) (relative : directory.isAbsolute = false)
    {entries : List (Segment × Entry)} (tree : (Entry.directory entries).WellFormed) :
    ((filesBelow walk (s.root.join directory) (.directory entries)).map s.relative).Pairwise
      fun p q => p.key < q.key := by
  rw [List.pairwise_map]
  refine (pairwise_filesBelow walk tree _).imp_of_mem ?_
  intro first second firstIn secondIn before
  obtain ⟨names, holds, _, rfl⟩ := (mem_filesBelow walk tree _ _).mp firstIn
  obtain ⟨others, otherHolds, _, rfl⟩ := (mem_filesBelow walk tree _ _).mp secondIn
  have areNames := tree.holds_names holds
  have otherNames := tree.holds_names otherHolds
  rw [Path.key_descend _ areNames, Path.key_descend _ otherNames] at before
  -- walked and reported paths begin differently, but each in the same way for all files
  have further := append_lt_cancel before
  have spelled : ∀ {location : Location}, (∀ name ∈ location, IsName name) → location ≠ [] →
      (s.relative ((s.root.join directory).descend location)).key =
        (if s.root.bytes = [] then directory.components else directory.steps).map
          Path.Component.segment ++ location := by
    intro location valid some
    rw [Path.key, ← reported, components_reported relative valid some, List.map_append, List.map_map]
    exact congrArg _ (List.map_id location)
  rw [spelled areNames (ne_nil_of_holds holds), spelled otherNames (ne_nil_of_holds otherHolds)]
  exact List.append_left_lt further

theorem found_of_directory {entries : List (Segment × Entry)}
    (opened : disk.open? (s.root.join directory) = .ok (.directory entries)) :
    s.found disk directory =
      ((filesBelow s.policy (s.root.join directory) (.directory entries)).map s.relative).filter
        s.policy.accepts := by
  simp only [found, resolve_eq_join, opened]

theorem everyFile_of_directory {entries : List (Segment × Entry)}
    (opened : disk.open? (s.root.join directory) = .ok (.directory entries)) :
    s.everyFile disk directory =
      (filesBelow { s.policy with excludedDirectories := [] } (s.root.join directory)
        (.directory entries)).map s.relative := by
  simp only [everyFile, resolve_eq_join, opened]

theorem found_of_no_directory
    (closed : ∀ entries, disk.open? (s.root.join directory) ≠ .ok (.directory entries)) :
    s.found disk directory = [] ∧ s.everyFile disk directory = [] := by
  rw [found, everyFile, resolve_eq_join]
  constructor
  · split
    · next entries opened => exact absurd opened (closed entries)
    · rfl
  · split
    · next entries opened => exact absurd opened (closed entries)
    · rfl

theorem mem_found (tree : disk.root.WellFormed) (relative : directory.isAbsolute = false) (p : Path) :
    p ∈ s.found disk directory ↔
      ∃ entries names, disk.open? (s.root.join directory) = .ok (.directory entries) ∧
        (Entry.directory entries).Holds names ∧ p = s.reported directory names ∧
        s.policy.accepts p = true := by
  by_cases opened : ∃ entries, disk.open? (s.root.join directory) = .ok (.directory entries)
  · obtain ⟨entries, opened⟩ := opened
    have inner := Disk.wellFormed_open tree opened
    rw [found_of_directory opened, List.mem_filter, mem_map_relative _ inner]
    constructor
    · rintro ⟨⟨names, holds, _, same⟩, accepted⟩
      exact ⟨entries, names, opened, holds, same, accepted⟩
    · rintro ⟨others, names, again, holds, rfl, accepted⟩
      cases opened.symm.trans again
      have unpruned := unpruned_of_accepts relative (inner.holds_names holds) (ne_nil_of_holds holds) accepted
      exact ⟨⟨names, holds, unpruned, rfl⟩, accepted⟩
  · have closed := not_exists.mp opened
    rw [(found_of_no_directory closed).1]
    constructor
    · simp
    · rintro ⟨entries, names, again, _⟩
      exact absurd again (closed entries)

theorem pairwise_found (tree : disk.root.WellFormed) (relative : directory.isAbsolute = false) :
    (s.found disk directory).Pairwise fun p q => p.key < q.key := by
  by_cases opened : ∃ entries, disk.open? (s.root.join directory) = .ok (.directory entries)
  · obtain ⟨entries, opened⟩ := opened
    rw [found_of_directory opened]
    exact (pairwise_map_relative _ relative (Disk.wellFormed_open tree opened)).filter _
  · rw [(found_of_no_directory (not_exists.mp opened)).1]
    exact List.Pairwise.nil

/-- Walking everything and asking the policy afterwards finds the same files in the same order. -/
theorem found_eq_filter (tree : disk.root.WellFormed) (relative : directory.isAbsolute = false) :
    s.found disk directory = (s.everyFile disk directory).filter s.policy.accepts := by
  by_cases opened : ∃ entries, disk.open? (s.root.join directory) = .ok (.directory entries)
  · obtain ⟨entries, opened⟩ := opened
    have inner := Disk.wellFormed_open tree opened
    have whole := everyFile_of_directory opened
    -- both lists are in strict order, so it is enough that they hold the same files
    apply eq_of_mem_iff (pairwise_found tree relative)
    · rw [whole]
      exact (pairwise_map_relative _ relative inner).filter _
    · intro p
      rw [mem_found tree relative, whole, List.mem_filter, mem_map_relative _ inner]
      constructor
      · rintro ⟨others, names, again, holds, same, accepted⟩
        cases opened.symm.trans again
        exact ⟨⟨names, holds, by simp [Unpruned], same⟩, accepted⟩
      · rintro ⟨⟨names, holds, _, same⟩, accepted⟩
        exact ⟨entries, names, opened, holds, same, accepted⟩
  · obtain ⟨none, nothing⟩ := found_of_no_directory (not_exists.mp opened)
    rw [none, nothing, List.filter_nil]

/-- The files found below a scan root are the accepted ones among all regular files that directories lead
to, in strict order; leaving directories out during the walk loses none of them. -/
structure FoundExactly (s : Selector) (disk : Disk) (directory : Path) : Prop where
  found : ∀ p, p ∈ s.found disk directory ↔
    ∃ entries names, disk.open? (s.root.join directory) = .ok (.directory entries) ∧
      (Entry.directory entries).Holds names ∧ p = s.reported directory names ∧ s.policy.accepts p = true
  inOrder : (s.found disk directory).Pairwise fun p q => p.key < q.key
  pruned : s.found disk directory = (s.everyFile disk directory).filter s.policy.accepts

theorem foundExactly (tree : disk.root.WellFormed) (relative : directory.isAbsolute = false) :
    FoundExactly s disk directory :=
  ⟨mem_found tree relative, pairwise_found tree relative, found_eq_filter tree relative⟩

end

/-! The whole scan -/

theorem scan_eq (s : Selector) (disk : Disk) :
    let listed := ((s.scanRoots.flatMap (s.found disk)).map Path.normalize).eraseDups
    (s.scan disk).root = some s.root ∧
      (s.scan disk).files =
        if listed = [] then ((s.found disk ".").map Path.normalize).eraseDups else listed := by
  intro listed
  have files : ((FileSet.rooted s.root).insertAll (s.scanRoots.flatMap (s.found disk))).files = listed :=
    FileSet.files_insertAll (some s.root) _
  have root : ((FileSet.rooted s.root).insertAll (s.scanRoots.flatMap (s.found disk))).root = some s.root :=
    FileSet.root_insertAll _ _
  rw [scan]
  by_cases none : listed = []
  · -- the scan of the project then starts from an empty set once more
    rw [none] at files
    have empty := FileSet.eq_mk root files
    simp only [empty, FileSet.isEmpty, List.isEmpty_nil, if_true]
    exact ⟨FileSet.root_insertAll _ _, by rw [if_pos none, FileSet.files_insertAll]⟩
  · have filled : ((FileSet.rooted s.root).insertAll (s.scanRoots.flatMap (s.found disk))).isEmpty = false := by
      simpa [FileSet.isEmpty, files] using none
    simp only [filled, Bool.false_eq_true, if_false, none]
    exact ⟨root, files⟩

theorem ofSettings_eq_ok {root : Path} {settings : SelectionSettings} {s : Selector}
    (built : ofSettings root settings = .ok s) :
    s.root = root ∧ s.scanRoots = settings.scanRoots ∧ Policy.ofSettings settings = .ok s.policy := by
  rw [ofSettings] at built
  cases policy : Policy.ofSettings settings with
  | error cause => simp [policy, bind, Except.bind] at built
  | ok accepted =>
    simp only [policy, bind, Except.bind, pure, Except.pure, Except.ok.injEq] at built
    subst built
    exact ⟨rfl, rfl, rfl⟩

/-- A scan with relative scan roots: below each of them, and below the project, it finds exactly what it
should; it takes the first of each normal form from all scan roots in turn, and goes through the project
itself just when that is nothing. -/
theorem scan_exact {root : Path} {settings : SelectionSettings} {s : Selector}
    (built : ofSettings root settings = .ok s)
    (relative : ∀ directory ∈ settings.scanRoots, directory.isAbsolute = false)
    {disk : Disk} (tree : disk.root.WellFormed) :
    (∀ directory ∈ settings.scanRoots ++ [Path.ofText "."], FoundExactly s disk directory) ∧
      let listed := ((settings.scanRoots.flatMap (s.found disk)).map Path.normalize).eraseDups
      (s.scan disk).root = some root ∧
        (s.scan disk).files =
          if listed = [] then ((s.found disk ".").map Path.normalize).eraseDups else listed := by
  obtain ⟨rfl, roots, _⟩ := ofSettings_eq_ok built
  constructor
  · intro directory member
    rcases List.mem_append.mp member with scanned | project
    · exact foundExactly tree (relative directory scanned)
    · rw [List.mem_singleton] at project
      subst project
      exact foundExactly tree (by decide)
  · rw [← roots]
    exact scan_eq s disk

/-- A project with a directory that is left out, one whose name begins like that of a file, and a link. -/
def sampleDisk : Disk :=
  ⟨.directory [("p", .directory [("src", .directory
    [("a.ts", .file []), ("a", .directory [("b.ts", .file [])]), ("dist", .directory [("c.ts", .file [])]),
      ("l.ts", .link "a.ts")])])], []⟩

theorem scan_exact_sample :
    sampleDisk.root.WellFormed ∧ (∀ directory ∈ [Path.ofText "src"], directory.isAbsolute = false) ∧
      ∃ s, ofSettings "/p" { scanRoots := ["src"] } = .ok s ∧ FoundExactly s sampleDisk "src" ∧
        Path.ofText "src/a/b.ts" ∈ s.found sampleDisk "src" := by
  have tree : sampleDisk.root.WellFormed := by decide +kernel
  have relative : ∀ directory ∈ [Path.ofText "src"], directory.isAbsolute = false := by decide
  have exact := fun s built =>
    (@scan_exact "/p" { scanRoots := ["src"] } s built relative sampleDisk tree).1 "src" (by simp)
  refine ⟨tree, relative, _, rfl, exact _ rfl, ((exact _ rfl).found _).mpr ?_⟩
  have inner : (Entry.directory [("b.ts", .file [])]).Holds ["b.ts"] :=
    .inside List.mem_cons_self (.file [])
  refine ⟨_, ["a", "b.ts"], rfl, ?_, by decide +kernel, by decide +kernel⟩
  exact .inside (List.mem_cons_of_mem _ List.mem_cons_self) inner

end Selector
end HouseStyle
