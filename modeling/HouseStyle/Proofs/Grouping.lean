import HouseStyle.Proofs.FirstOccurrences
import HouseStyle.Proofs.Reports
import Mathlib.Algebra.GroupWithZero.Nat

/-! Groups after any run of records, of new files and old ones, under any spelling.

A group is found by the components of its path. Two facts describe the groups of a run: which components
they have, in which order, and what is found under a path. A record changes each of them in one place.
-/

set_option autoImplicit false
namespace HouseStyle

def Group.key (g : Group) : List Path.Component := g.file.components

namespace Report

/-- What was recorded under a path, however it was spelled. -/
def foundUnder (records : List (Path × List Finding)) (path : Path) : List Finding :=
  (records.filter (·.1.same path)).flatMap Prod.snd

/-- The components of the files that were recorded with findings, in the order of their first such record. -/
def keysOf (records : List (Path × List Finding)) : List (List Path.Component) :=
  ((records.filter (!·.2.isEmpty)).map (·.1.components)).eraseDups

theorem foundUnder_append (records : List (Path × List Finding)) (file : Path) (found : List Finding)
    (path : Path) :
    foundUnder (records ++ [(file, found)]) path =
      foundUnder records path ++ if file.same path then found else [] := by
  by_cases same : file.same path
  · simp [foundUnder, List.filter_append, same]
  · simp [foundUnder, List.filter_append, same]

theorem foundUnder_eq_nil_iff (records : List (Path × List Finding)) (path : Path) :
    foundUnder records path = [] ↔
      ∀ file found, (file, found) ∈ records → file.same path = true → found = [] := by
  simp only [foundUnder, List.flatMap_eq_nil_iff, List.mem_filter, Prod.forall, and_imp]

theorem keysOf_append_nil (records : List (Path × List Finding)) (file : Path) :
    keysOf (records ++ [(file, [])]) = keysOf records := by
  simp [keysOf, List.filter_append]

theorem keysOf_append (records : List (Path × List Finding)) (file : Path) {found : List Finding}
    (some : found ≠ []) :
    keysOf (records ++ [(file, found)]) =
      if file.components ∈ keysOf records then keysOf records else keysOf records ++ [file.components] := by
  have filled : [(file, found)].filter (!·.2.isEmpty) = [(file, found)] := by simp [some]
  rw [keysOf, List.filter_append, filled, List.map_append, List.map_singleton, eraseDups_concat]
  simp only [List.contains_iff_mem, keysOf, List.mem_eraseDups]

/-! What one record does to the groups -/

theorem keys_addTo (file : Path) (found : List Finding) (groups : List Group) :
    (addTo file found groups).map Group.key =
      if file.components ∈ groups.map Group.key then groups.map Group.key
      else groups.map Group.key ++ [file.components] := by
  induction groups with
  | nil => rfl
  | cons g rest ih =>
    rw [addTo]
    by_cases same : g.file.components = file.components
    · simp [Path.same, Group.key, same]
    · have other : ¬ file.components = g.key := fun equal => same equal.symm
      simp only [Path.same, beq_iff_eq, same, if_false, List.map_cons, List.mem_cons, other, false_or, ih]
      split <;> rfl

/-- The group of a path after a record: only that of the recorded file is another one. -/
theorem find?_addTo (file : Path) (found : List Finding) (groups : List Group) (path : Path) :
    ((addTo file found groups).find? (·.file.same path)).map Group.findings =
      if file.same path then
        some ((((groups.find? (·.file.same path)).map Group.findings).getD []) ++ found)
      else (groups.find? (·.file.same path)).map Group.findings := by
  induction groups with
  | nil =>
    rw [addTo, List.find?_singleton]
    split <;> rfl
  | cons g rest ih =>
    rw [addTo]
    by_cases same : g.file.components = file.components
    · -- the record goes to this group, which is the one of the path or not
      by_cases here : file.components = path.components
      · simp [Path.same, same, here]
      · simp [Path.same, same, here]
    · by_cases here : g.file.components = path.components
      · have other : ¬ file.components = path.components := fun equal => same (here.trans equal.symm)
        rw [if_neg (by simpa [Path.same] using same), if_neg (by simpa [Path.same] using other)]
        simp [Path.same, here]
      · simp only [Path.same, beq_iff_eq] at ih
        simp [Path.same, same, here, ih]

/-! What a run of records leaves -/

/-- The groups are those of the records. -/
structure Grouped (records : List (Path × List Finding)) (groups : List Group) : Prop where
  keys : groups.map Group.key = keysOf records
  found : ∀ path, (groups.find? (·.file.same path)).map Group.findings =
    (some (foundUnder records path)).filter (!·.isEmpty)

theorem Grouped.record {records : List (Path × List Finding)} {r : Report} (grouped : Grouped records r.groups)
    (file : Path) (found : List Finding) : Grouped (records ++ [(file, found)]) (r.record file found).groups := by
  by_cases none : found = []
  · subst none
    rw [record_nil]
    refine ⟨grouped.keys.trans (keysOf_append_nil records file).symm, fun path => ?_⟩
    rw [foundUnder_append, ite_self, List.append_nil]
    exact grouped.found path
  · rw [record_of_ne_nil r file none]
    refine ⟨?_, fun path => ?_⟩
    · rw [keys_addTo, grouped.keys, keysOf_append records file none]
    · rw [find?_addTo, grouped.found, foundUnder_append]
      by_cases same : file.same path
      · cases before : foundUnder records path with
        | nil => simp [same, none, Option.filter]
        | cons first others => simp [same, Option.filter]
      · simp [same]

theorem recordAll_append (r : Report) (records : List (Path × List Finding)) (file : Path)
    (found : List Finding) :
    r.recordAll (records ++ [(file, found)]) = (r.recordAll records).record file found := by
  simp [recordAll, List.foldl_append]

theorem grouped_recordAll (records : List (Path × List Finding)) :
    Grouped records (empty.recordAll records).groups := by
  -- from the end, since a record looks at the groups of all records before it
  induction records using List.reverseRecOn with
  | nil => exact ⟨rfl, fun _ => rfl⟩
  | append_singleton records last ih =>
    rw [recordAll_append]
    exact ih.record last.1 last.2

section
variable {records : List (Path × List Finding)} {groups : List Group}

theorem Grouped.apart (grouped : Grouped records groups) :
    groups.Pairwise fun first second => first.file.same second.file = false := by
  have distinct : (groups.map Group.key).Nodup := by
    rw [grouped.keys]
    exact nodup_eraseDups _
  refine (List.pairwise_map.mp distinct).imp ?_
  intro first second differ
  simpa [Path.same, Group.key] using differ

theorem find?_of_apart (apart : groups.Pairwise fun first second => first.file.same second.file = false)
    {g : Group} (member : g ∈ groups) : groups.find? (·.file.same g.file) = some g := by
  induction groups with
  | nil => simp at member
  | cons first rest ih =>
    rw [List.pairwise_cons] at apart
    rcases List.mem_cons.mp member with rfl | later
    · simp [Path.same]
    · rw [List.find?_cons_of_neg (by simpa using apart.1 g later), ih apart.2 later]

theorem Grouped.filled (grouped : Grouped records groups) : ∀ g ∈ groups, g.findings ≠ [] := by
  intro g member none
  have under := grouped.found g.file
  rw [find?_of_apart grouped.apart member, Option.map_some, none] at under
  have kept := Option.filter_eq_some_iff.mp under.symm
  simp at kept

theorem Grouped.find?_eq_none_iff (grouped : Grouped records groups) (path : Path) :
    groups.find? (·.file.same path) = none ↔ foundUnder records path = [] := by
  rw [← Option.map_eq_none_iff (f := Group.findings), grouped.found path, Option.filter_eq_none_iff]
  simp

theorem Grouped.findings_of_find? (grouped : Grouped records groups) {path : Path} {g : Group}
    (present : groups.find? (·.file.same path) = some g) : g.findings = foundUnder records path := by
  have under := grouped.found path
  rw [present, Option.map_some] at under
  exact (Option.some.inj (Option.filter_eq_some_iff.mp under.symm).1).symm

end

/-! Nothing is lost -/

theorem findings_record_perm (r : Report) (file : Path) (found : List Finding) :
    (r.record file found).findings.Perm (r.findings ++ found) := by
  by_cases none : found = []
  · rw [none, record_nil, List.append_nil]
    rfl
  · rw [record_of_ne_nil r file none]
    exact findings_addTo_perm file found r.groups

theorem findings_recordAll_perm (records : List (Path × List Finding)) :
    (empty.recordAll records).findings.Perm (records.flatMap Prod.snd) := by
  induction records using List.reverseRecOn with
  | nil => rfl
  | append_singleton records last ih =>
    rw [recordAll_append, List.flatMap_append, List.flatMap_singleton]
    exact (findings_record_perm _ last.1 last.2).trans (ih.append_right last.2)

/-! Counts by severity and by group -/

theorem Tallied.errors_bySeverity {r : Report} (tallied : r.Tallied) :
    r.errorCount = (r.bySeverity .error).length := by
  rw [tallied.errors, bySeverity, List.countP_eq_length_filter]

theorem Tallied.warnings_bySeverity {r : Report} (tallied : r.Tallied) :
    r.warningCount = (r.bySeverity .warning).length := by
  rw [tallied.warnings, bySeverity, List.countP_eq_length_filter]

theorem Tallied.errors_sum {r : Report} (tallied : r.Tallied) :
    r.errorCount = (r.groups.map Group.errorCount).sum := by
  rw [tallied.errors, findings, List.countP_flatMap]
  rfl

theorem Tallied.warnings_sum {r : Report} (tallied : r.Tallied) :
    r.warningCount = (r.groups.map Group.warningCount).sum := by
  have each : Group.warningCount = fun g => g.findings.countP (·.severity == .warning) := by
    funext g
    exact Finding.length_sub_errors g.findings
  rw [tallied.warnings, findings, List.countP_flatMap, each]
  rfl

theorem Tallied.total {r : Report} (tallied : r.Tallied) :
    r.errorCount + r.warningCount = r.findings.length := by
  rw [tallied.errors, tallied.warnings, ← Finding.length_sub_errors]
  exact Nat.add_sub_of_le List.countP_le_length

theorem hasFindings_iff {r : Report} (filled : ∀ g ∈ r.groups, g.findings ≠ []) :
    r.hasFindings = true ↔ 0 < r.findings.length := by
  rw [hasFindings, List.length_pos_iff_ne_nil, findings, ne_eq, List.flatMap_eq_nil_iff]
  cases groups : r.groups with
  | nil => simp
  | cons g rest =>
    have some := filled g (by simp [groups])
    simp [some]

/-! The whole report -/

/-- The report tells what was recorded. -/
structure SummaryOf (records : List (Path × List Finding)) (r : Report) : Prop where
  checked : r.filesChecked = records.length
  apart : r.groups.Pairwise fun first second => first.file.same second.file = false
  filled : ∀ g ∈ r.groups, g.findings ≠ []
  absent : ∀ path, r.forFile? path = none ↔
    ∀ file found, (file, found) ∈ records → file.same path = true → found = []
  present : ∀ path g, r.forFile? path = some g →
    g.file.same path = true ∧ g.findings = foundUnder records path
  ordered : r.groups.map Group.key = keysOf records
  errors : r.errorCount = (r.bySeverity .error).length ∧
    r.errorCount = (r.groups.map Group.errorCount).sum
  warnings : r.warningCount = (r.bySeverity .warning).length ∧
    r.warningCount = (r.groups.map Group.warningCount).sum
  success : r.success = true ↔ r.errorCount = 0
  hasFindings : r.hasFindings = true ↔ 0 < r.errorCount + r.warningCount
  complete : r.findings.Perm (records.flatMap Prod.snd)

/-- Whatever is recorded, in whatever order and under whatever spellings, the report is a summary of it. -/
theorem recordAll_summary (records : List (Path × List Finding)) :
    SummaryOf records (empty.recordAll records) := by
  have grouped := grouped_recordAll records
  have tallied := tallied_empty.recordAll records
  have counted := filesChecked_recordAll empty records
  exact {
    checked := by simpa [empty] using counted
    apart := grouped.apart
    filled := grouped.filled
    absent := fun path => (grouped.find?_eq_none_iff path).trans (foundUnder_eq_nil_iff records path)
    present := fun path g present => ⟨by simpa using List.find?_some present, grouped.findings_of_find? present⟩
    ordered := grouped.keys
    errors := ⟨tallied.errors_bySeverity, tallied.errors_sum⟩
    warnings := ⟨tallied.warnings_bySeverity, tallied.warnings_sum⟩
    success := by rw [tallied.success, beq_iff_eq]
    hasFindings := by rw [hasFindings_iff grouped.filled, tallied.total]
    complete := findings_recordAll_perm records }

end Report
end HouseStyle
