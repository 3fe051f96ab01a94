import HouseStyle.Proofs.Following
import HouseStyle.Proofs.SelectedFiles

/-! Selected files are there when they are read.

A path is tested, or come upon, in one spelling and read in another: it may have lost the root of the project,
it has lost its idle segments, and it is joined to the root again. All of this keeps the steps of the path, and
the spelling it is read in ends in a step. So it leads to the file that was there before.
-/

set_option autoImplicit false
namespace HouseStyle

open HouseStyle.Path (IsName)

theorem Entry.get?_of_mem {entries : List (Path.Segment × Entry)} (distinct : (entries.map Prod.fst).Nodup)
    {name : Path.Segment} {inner : Entry} (member : (name, inner) ∈ entries) :
    (Entry.directory entries).get? name = some inner := by
  induction entries with
  | nil => cases member
  | cons listed rest ih =>
    obtain ⟨fresh, later⟩ := List.nodup_cons.mp distinct
    rw [Entry.get?, Entry.entries, List.find?_cons]
    rcases List.mem_cons.mp member with rfl | further
    · simp
    · have differs : (listed.1 == name) = false := by
        rw [beq_eq_false_iff_ne]
        rintro rfl
        exact fresh (List.mem_map.mpr ⟨_, further, rfl⟩)
      rw [differs]
      exact ih later further

namespace Disk

theorem open?_eq_ok_iff {disk : Disk} {path : Path} {entry : Entry} :
    disk.open? path = .ok entry ↔
      ∃ location, disk.locate path = .ok location ∧ disk.lookup location = some entry := by
  rw [open?]
  cases located : disk.locate path with
  | error cause => simp [bind, Except.bind]
  | ok location =>
    cases held : disk.lookup location with
    | none => simp [bind, Except.bind, held, throw, throwThe, MonadExceptOf.throw]
    | some entry => simp [bind, Except.bind, held, pure, Except.pure]

theorem isFile_iff {disk : Disk} {path : Path} :
    disk.isFile path = true ↔ ∃ location, disk.LeadsToFile path location := by
  constructor
  · intro file
    rw [isFile] at file
    split at file
    · next entry opened =>
      obtain ⟨location, located, held⟩ := open?_eq_ok_iff.mp opened
      cases entry with
      | file content => exact ⟨location, located, content, held⟩
      | directory => cases file
      | link => cases file
    · cases file
  · rintro ⟨location, located, content, held⟩
    rw [isFile, open?_eq_ok_iff.mpr ⟨location, located, held⟩]
    rfl

theorem LeadsToFile.unique {disk : Disk} {path : Path} {first second : Location}
    (leads : disk.LeadsToFile path first) (other : disk.LeadsToFile path second) : first = second :=
  Except.ok.inj (leads.1.symm.trans other.1)

/-- A regular file is read, or it holds no text. -/
theorem LeadsToFile.readText {disk : Disk} {path : Path} {location : Location}
    (leads : disk.LeadsToFile path location) {cause : IoError} (failed : disk.readText path = .error cause) :
    cause = .invalidText := by
  obtain ⟨located, content, held⟩ := leads
  rw [Disk.readText, open?_eq_ok_iff.mpr ⟨location, located, held⟩] at failed
  cases decoded : Text.decode? content with
  | some text => simp [bind, Except.bind, pure, Except.pure, decoded] at failed
  | none =>
    simp only [bind, Except.bind, decoded] at failed
    exact (Except.error.inj failed).symm

/-! Below a directory -/

theorem lookup_concat (disk : Disk) (location : Location) (name : Path.Segment) :
    disk.lookup (location ++ [name]) = (disk.lookup location).bind (·.get? name) := by
  rw [lookup, List.foldl_append]
  rfl

theorem turn_name {disk : Disk} {location : Location} {entry inner : Entry} {name : Path.Segment}
    (held : disk.lookup location = some entry) (directory : entry.isDirectory = true) (isName : IsName name)
    (inside : entry.get? name = some inner) (direct : ∀ target, inner ≠ .link target) :
    disk.turn location name = .ok (.move (location ++ [name])) := by
  have busy : Path.isIdle name = false := Path.isIdle_eq_false.mpr ⟨isName.1, isName.2.1⟩
  have notUp : (name == [Path.dot, Path.dot]) = false := by simpa using isName.2.2.1
  simp only [turn, held, directory, busy, notUp, inside]
  cases inner with
  | link target => exact absurd rfl (direct target)
  | _ => rfl

/-- A name below a directory leads one further, if it is not that of a link. -/
theorem locate_join_name {disk : Disk} {path : Path} {location : Location} {entry inner : Entry} {name : Path.Segment}
    (located : disk.locate path = .ok location) (held : disk.lookup location = some entry)
    (directory : entry.isDirectory = true) (isName : IsName name) (inside : entry.get? name = some inner)
    (direct : ∀ target, inner ≠ .link target) : disk.locate (path.join ⟨name⟩) = .ok (location ++ [name]) := by
  obtain ⟨filled, links, within, leads⟩ := locate_eq_ok_iff.mp located
  obtain ⟨relative, _, one⟩ := Path.ofName isName
  have segments : (Path.mk name).segments = [name] := Text.splitAt_of_free isName.2.2.2
  have busy : Path.isIdle name = false := Path.isIdle_eq_false.mpr ⟨isName.1, isName.2.1⟩
  have ends : (path.join ⟨name⟩).EndsInStep := Path.EndsInStep.join ⟨[], name, segments, busy⟩ path
  refine locate_eq_ok_iff.mpr ⟨ends.bytes_ne, links, within, ?_⟩
  -- what the path has at its end, before the name, is idle
  obtain ⟨front, tail, _, idle, left, joined⟩ := Path.segments_join filled relative
  rw [Path.isAbsolute_join filled relative, joined, segments]
  apply Leads.of_filter busy
  have steps := leads.filter
  rw [left, List.filter_append, Path.filter_idle idle, List.append_nil] at steps
  rw [List.filter_append, List.filter_cons_of_pos (by simp [busy]), List.filter_nil]
  exact steps.append (.move (turn_name held directory isName inside direct) .done)

/-- What the names lead to in a directory is found by their path below the directory's. -/
theorem leadsToFile_descend {disk : Disk} {entry : Entry} (tree : entry.WellFormed) {names : Location}
    (holds : entry.Holds names) {path : Path} {location : Location} (located : disk.locate path = .ok location)
    (held : disk.lookup location = some entry) : disk.LeadsToFile (path.descend names) (location ++ names) := by
  induction holds generalizing path location with
  | file content =>
    rw [List.append_nil]
    exact ⟨located, content, held⟩
  | @inside entries name inner names member holds ih =>
    cases tree with
    | directory distinct named sound =>
      have inside : (Entry.directory entries).get? name = some inner := Entry.get?_of_mem distinct member
      have direct : ∀ target, inner ≠ .link target := by
        rintro target rfl
        cases holds
      have further := locate_join_name located held rfl (named _ member) inside direct
      have below := ih (sound _ member) further (by rw [lookup_concat, held]; exact inside)
      rwa [List.append_assoc] at below

end Disk

namespace Selector

/-! Spellings -/

theorem resolve_like (s : Selector) {p q : Path} (absolute : p.isAbsolute = q.isAbsolute)
    (steps : p.steps = q.steps) :
    (s.resolve p).isAbsolute = (s.resolve q).isAbsolute ∧ (s.resolve p).steps = (s.resolve q).steps := by
  rw [resolve_eq_join, resolve_eq_join]
  cases relative : q.isAbsolute with
  | true =>
    rw [relative] at absolute
    rw [Path.join_of_absolute _ absolute, Path.join_of_absolute _ relative, absolute, relative]
    exact ⟨rfl, steps⟩
  | false =>
    rw [relative] at absolute
    refine ⟨?_, by rw [Path.steps_join absolute, Path.steps_join relative, steps]⟩
    by_cases empty : s.root.bytes = []
    · rw [Path.join_of_empty empty absolute, Path.join_of_empty empty relative, absolute, relative]
    · rw [Path.isAbsolute_join empty absolute, Path.isAbsolute_join empty relative]

/-- The path is absolute, or nothing is taken from it, or it leads through the project. -/
def Reached (s : Selector) (path : Path) : Prop :=
  path.isAbsolute = true ∨ s.root.bytes = [] ∨ s.root.start = path.start ∧ s.root.steps <+: path.steps

/-- Stripping the root of the project and joining it again leads the same way. -/
theorem resolve_relative {s : Selector} {path : Path} (reached : s.Reached path) :
    (s.resolve (s.relative path)).isAbsolute = path.isAbsolute ∧
      (s.resolve (s.relative path)).steps = path.steps := by
  rw [resolve_eq_join, Selector.relative]
  by_cases empty : s.root.bytes = []
  · cases absolute : path.isAbsolute with
    | true =>
      rw [Path.relativeTo_empty_of_absolute empty absolute, Path.join_of_absolute _ absolute]
      exact ⟨absolute, rfl⟩
    | false =>
      have still := Path.isAbsolute_dropIdleEnd absolute
      rw [Path.relativeTo_empty empty absolute, Path.join_of_empty empty still]
      exact ⟨still, Path.steps_dropIdleEnd path⟩
  · by_cases inside : s.root.start = path.start ∧ s.root.steps <+: path.steps
    · obtain ⟨start, steps⟩ := inside
      obtain ⟨relative, _, left⟩ := Path.relativeTo_of_inside empty start steps
      rw [Path.isAbsolute_join empty relative, Path.steps_join relative, left]
      obtain ⟨back, whole⟩ := steps
      exact ⟨Path.isAbsolute_eq_of_start start, by rw [← whole, List.drop_left]⟩
    · have absolute : path.isAbsolute = true := by
        rcases reached with absolute | none | through
        · exact absolute
        · exact absurd none empty
        · exact absurd through inside
      rw [Path.relativeTo_of_apart empty inside, Path.join_of_absolute _ absolute]
      exact ⟨rfl, rfl⟩

theorem reached_descend (s : Selector) (directory : Path) {names : Location}
    (areNames : ∀ name ∈ names, IsName name) : s.Reached ((s.resolve directory).descend names) := by
  obtain ⟨start, steps⟩ := Path.components_descend (s.resolve directory) areNames
  rw [Reached, start, steps, Path.isAbsolute_eq_of_start start, resolve_eq_join]
  cases relative : directory.isAbsolute with
  | true =>
    rw [Path.join_of_absolute _ relative]
    exact .inl relative
  | false =>
    by_cases empty : s.root.bytes = []
    · exact .inr (.inl empty)
    · refine .inr (.inr ⟨(Path.start_join empty relative).symm, ?_⟩)
      rw [Path.steps_join relative, List.append_assoc]
      exact List.prefix_append _ _

/-- A path that leads to a file is stored so that it leads there again. -/
theorem leadsToFile_normalize {s : Selector} {disk : Disk} {tested given : Path} {location : Location}
    (leads : disk.LeadsToFile tested location) (absolute : (s.resolve given).isAbsolute = tested.isAbsolute)
    (steps : (s.resolve given).steps = tested.steps) (some : given.steps ≠ []) :
    disk.LeadsToFile (s.resolve given.normalize) location := by
  obtain ⟨sameStart, sameSteps⟩ := s.resolve_like (Path.isAbsolute_normalize given) (Path.steps_normalize given)
  have ends : (s.resolve given.normalize).EndsInStep := by
    rw [resolve_eq_join]
    exact (Path.endsInStep_of_normal given.normalize_normalize (by simpa using some)).join _
  exact ⟨Disk.locate_of_steps leads.1 (sameStart.trans absolute) (sameSteps.trans steps) ends, leads.2⟩

/-! Selections -/

theorem named_eq (s : Selector) (disk : Disk) (paths : List Path) :
    s.named disk paths = ⟨some s.root, ((paths.filter (s.takes disk)).map Path.normalize).eraseDups⟩ :=
  FileSet.eq_mk (FileSet.root_insertAll _ _) (FileSet.files_insertAll _ _)

theorem named_leadsToFile {s : Selector} {disk : Disk} {path : Path} (taken : s.takes disk path = true) :
    ∃ location, disk.LeadsToFile (s.resolve path) location ∧
      disk.LeadsToFile (s.resolve path.normalize) location := by
  have origin : Origin s disk (.named [path]) (s.place path) path := .named List.mem_cons_self taken
  rw [takes, Bool.and_eq_true] at taken
  obtain ⟨location, leads⟩ := Disk.isFile_iff.mp taken.1
  exact ⟨location, leads, leadsToFile_normalize leads rfl rfl origin.steps_ne_nil⟩

theorem exists_found_of_scan {s : Selector} {disk : Disk} {file : Path} (member : file ∈ (s.scan disk).files) :
    ∃ directory ∈ s.scanRoots ++ [Path.ofText "."], ∃ path ∈ s.found disk directory, path.normalize = file := by
  rw [(scan_eq s disk).2] at member
  split at member
  · rw [List.mem_eraseDups, List.mem_map] at member
    obtain ⟨path, found, same⟩ := member
    exact ⟨".", by simp, path, found, same⟩
  · rw [List.mem_eraseDups, List.mem_map] at member
    obtain ⟨path, listed, same⟩ := member
    obtain ⟨directory, scanned, found⟩ := List.mem_flatMap.mp listed
    exact ⟨directory, List.mem_append_left _ scanned, path, found, same⟩

/-- A file that a scan comes upon: the directory it starts from, and the names that lead from there to the file. -/
structure Encounter (s : Selector) (disk : Disk) (directory : Path) (base names : Location) : Prop where
  starts : disk.locate (s.resolve directory) = .ok base
  holds : ∃ entries, disk.lookup base = some (.directory entries) ∧ (Entry.directory entries).Holds names

theorem exists_encounter {s : Selector} {disk : Disk} (tree : disk.root.WellFormed) {directory path : Path}
    (found : path ∈ s.found disk directory) : ∃ base names, s.Encounter disk directory base names ∧
      path = s.relative ((s.resolve directory).descend names) ∧
      disk.LeadsToFile (s.resolve path.normalize) (base ++ names) := by
  have origin := origin_of_found found
  rw [Selector.found] at found
  split at found
  · next entries opened =>
    obtain ⟨listed, _⟩ := List.mem_filter.mp found
    have inner := Disk.wellFormed_open tree opened
    obtain ⟨walked, below, rfl⟩ := List.mem_map.mp listed
    obtain ⟨names, holds, _, rfl⟩ := (mem_filesBelow _ inner _ _).mp below
    obtain ⟨base, located, held⟩ := Disk.open?_eq_ok_iff.mp opened
    have leads := Disk.leadsToFile_descend inner holds located held
    obtain ⟨absolute, steps⟩ := resolve_relative (s.reached_descend directory (inner.holds_names holds))
    exact ⟨base, names, ⟨located, entries, held, holds⟩, rfl,
      leadsToFile_normalize leads absolute steps origin.steps_ne_nil⟩
  · cases found

/-- Naming files selects the normal forms of those that are files and that the policy accepts, the first of each
in the order given, and warns of nothing. What was tested and what is stored lead to one regular file, so that it
can only fail to be read for what it holds. So it is with all that a scan comes upon, wherever it starts. -/
theorem selected_read_back {root : Path} {settings : SelectionSettings} {s : Selector}
    (built : ofSettings root settings = .ok s) (disk : Disk) (source : ChangeSource) (calls : List Arguments) :
    (∀ paths,
      let taken := paths.filter fun p =>
        disk.isFile (s.resolve p) && s.policy.accepts (s.relative (s.resolve p))
      let files : FileSet := ⟨some root, (taken.map Path.normalize).eraseDups⟩
      (s.selectFrom disk source (.named paths)).run calls = (⟨files, []⟩, calls) ∧
        ∀ q ∈ files.files, (∃ p ∈ taken, p.normalize = q) ∧ ∃ location,
          (∀ p ∈ taken, p.normalize = q → disk.LeadsToFile (s.resolve p) location) ∧
          disk.LeadsToFile (files.resolve q) location ∧
          ∀ cause, disk.readText (files.resolve q) = .error cause → cause = .invalidText) ∧
      (disk.root.WellFormed →
        let files := s.selected disk source .scan calls
        ∀ q ∈ files.files, ∃ directory ∈ settings.scanRoots ++ [Path.ofText "."], ∃ base names,
          s.Encounter disk directory base names ∧
          q = (s.relative ((s.resolve directory).descend names)).normalize ∧
          disk.LeadsToFile (files.resolve q) (base ++ names) ∧
          ∀ cause, disk.readText (files.resolve q) = .error cause → cause = .invalidText) := by
  obtain ⟨rfl, roots, _⟩ := ofSettings_eq_ok built
  constructor
  · intro paths taken files
    have chosen : s.named disk paths = files := named_eq s disk paths
    refine ⟨congrArg (fun set => ((⟨set, []⟩ : Chosen), calls)) chosen, fun q member => ?_⟩
    obtain ⟨p, present, rfl⟩ := List.mem_map.mp (List.mem_eraseDups.mp member)
    obtain ⟨location, _, stored⟩ := named_leadsToFile (List.mem_filter.mp present).2
    refine ⟨⟨p, present, rfl⟩, location, fun other given same => ?_, stored, fun _ => stored.readText⟩
    -- whatever was given for this entry, the entry leads there
    obtain ⟨_, tested, again⟩ := named_leadsToFile (List.mem_filter.mp given).2
    rw [same] at again
    exact stored.unique again ▸ tested
  · -- a scan stores what it came upon below a directory, and the names below it are no links
    intro tree files q member
    obtain ⟨directory, scanned, path, found, rfl⟩ := exists_found_of_scan member
    obtain ⟨base, names, encounter, rfl, leads⟩ := exists_encounter tree found
    rw [show files.resolve = s.resolve from funext resolve_selected]
    exact ⟨directory, roots ▸ scanned, base, names, encounter, rfl, leads, fun _ => leads.readText⟩

/-- A project with a link to its source directory, and a directory beside it. -/
def linkedDisk : Disk :=
  ⟨.directory [("p", .directory [("src", .directory [("A.ts", .file [])]), ("l", .link "./src/")]),
    ("q", .directory [("B.ts", .file [])])], []⟩

/-- A file named through idle segments and through the link, and one found outside the project. -/
theorem selected_read_back_linked :
    linkedDisk.root.WellFormed ∧
      ∃ s, ofSettings "/p" { scanRoots := ["./l", "/p/../q"] } = .ok s ∧
        let source := Git.source fun _ => .error .notFound
        let named := s.selected linkedDisk source (.named ["./l//A.ts", "gone.ts", "l/A.ts"]) []
        let found := s.selected linkedDisk source .scan []
        named.files = [Path.ofText "l/A.ts"] ∧ found.files = [Path.ofText "l/A.ts", "../q/B.ts"] ∧
          (∃ location, linkedDisk.LeadsToFile (s.resolve "./l//A.ts") location ∧
            linkedDisk.LeadsToFile (s.resolve "l/A.ts") location) ∧
          ∃ location, linkedDisk.LeadsToFile (s.resolve "../q/B.ts") location := by
  have tree : linkedDisk.root.WellFormed := by decide +kernel
  refine ⟨tree, _, rfl, ?_⟩
  intro source named found
  obtain ⟨ofNamed, ofScan⟩ :=
    @selected_read_back "/p" { scanRoots := ["./l", "/p/../q"] } _ rfl linkedDisk source []
  refine ⟨by decide +kernel, by decide +kernel, ?_, ?_⟩
  · obtain ⟨_, location, tested, stored, _⟩ :=
      (ofNamed ["./l//A.ts", "gone.ts", "l/A.ts"]).2 "l/A.ts" (by decide +kernel)
    exact ⟨location, tested _ (by decide +kernel) (by decide +kernel), stored⟩
  · obtain ⟨_, _, base, names, _, _, leads, _⟩ := ofScan tree "../q/B.ts" (by decide +kernel)
    rw [resolve_selected] at leads
    exact ⟨base ++ names, leads⟩

end Selector
end HouseStyle
