import HouseStyle.Report.Basic
import Mathlib.Data.List.Basic

/-! What a report holds after a run of records: its counts agree with its findings, and files that differ
get a group each. -/

set_option autoImplicit false
namespace HouseStyle

theorem Finding.isError_eq_false (f : Finding) : f.isError = false ↔ f.severity = .warning := by
  rw [isError]
  cases f.severity <;> decide

theorem Finding.length_sub_errors (findings : List Finding) :
    findings.length - findings.countP isError = findings.countP (·.severity == .warning) := by
  have both := List.length_eq_countP_add_countP isError (l := findings)
  have other : findings.countP (fun f => decide ¬ f.isError = true) = findings.countP (·.severity == .warning) := by
    apply List.countP_congr
    intro f _
    simp [Finding.isError_eq_false]
  omega

namespace Report

/-- The report after a run of records. -/
def recordAll (r : Report) (records : List (Path × List Finding)) : Report :=
  records.foldl (fun report (file, found) => report.record file found) r

@[simp] theorem recordAll_nil (r : Report) : r.recordAll [] = r := rfl

@[simp] theorem recordAll_cons (r : Report) (file : Path) (found : List Finding)
    (rest : List (Path × List Finding)) :
    r.recordAll ((file, found) :: rest) = (r.record file found).recordAll rest := rfl

/-! One record -/

theorem record_nil (r : Report) (file : Path) :
    r.record file [] = { r with filesChecked := r.filesChecked + 1 } := rfl

theorem record_of_ne_nil (r : Report) (file : Path) {found : List Finding} (some : found ≠ []) :
    r.record file found =
      { success := r.errorCount + found.countP Finding.isError == 0
        errorCount := r.errorCount + found.countP Finding.isError
        warningCount := r.warningCount + found.countP (·.severity == .warning)
        filesChecked := r.filesChecked + 1
        groups := addTo file found r.groups } := by
  have filled : found.isEmpty = false := by simpa using some
  simp [record, filled, ← Finding.length_sub_errors]

theorem filesChecked_record (r : Report) (file : Path) (found : List Finding) :
    (r.record file found).filesChecked = r.filesChecked + 1 := by
  by_cases none : found = []
  · rw [none, record_nil]
  · rw [record_of_ne_nil r file none]

/-- What a record adds is all that is new among the findings. -/
theorem findings_addTo_perm (file : Path) (found : List Finding) (groups : List Group) :
    ((addTo file found groups).flatMap Group.findings).Perm (groups.flatMap Group.findings ++ found) := by
  induction groups with
  | nil => simp [addTo]
  | cons g rest ih =>
    rw [addTo]
    split
    · -- the new findings stand before those of the later groups
      simp only [List.flatMap_cons, List.append_assoc]
      exact List.perm_append_comm.append_left g.findings
    · simp only [List.flatMap_cons, List.append_assoc]
      exact ih.append_left g.findings

theorem countP_addTo (test : Finding → Bool) (file : Path) (found : List Finding) (groups : List Group) :
    ((addTo file found groups).flatMap Group.findings).countP test =
      (groups.flatMap Group.findings).countP test + found.countP test := by
  rw [(findings_addTo_perm file found groups).countP_eq, List.countP_append]

theorem addTo_of_new {file : Path} {groups : List Group} (new : ∀ g ∈ groups, g.file.same file = false)
    (found : List Finding) : addTo file found groups = groups ++ [⟨file, found⟩] := by
  induction groups with
  | nil => rfl
  | cons g rest ih =>
    have other := new g List.mem_cons_self
    simp only [addTo, other, Bool.false_eq_true, if_false, List.cons_append]
    rw [ih fun further member => new further (List.mem_cons_of_mem _ member)]

/-! Counts -/

/-- The counts and the verdict are those of the findings. -/
structure Tallied (r : Report) : Prop where
  errors : r.errorCount = r.findings.countP (·.severity == .error)
  warnings : r.warningCount = r.findings.countP (·.severity == .warning)
  success : r.success = (r.errorCount == 0)

theorem tallied_empty : Tallied empty := ⟨rfl, rfl, rfl⟩

theorem Tallied.record {r : Report} (tallied : r.Tallied) (file : Path) (found : List Finding) :
    (r.record file found).Tallied := by
  by_cases none : found = []
  · rw [none, record_nil]
    exact ⟨tallied.errors, tallied.warnings, tallied.success⟩
  · rw [record_of_ne_nil r file none]
    refine ⟨?_, ?_, rfl⟩
    · simp only [findings, countP_addTo, tallied.errors]
      rfl
    · simp only [findings, countP_addTo, tallied.warnings]

theorem Tallied.recordAll {r : Report} (tallied : r.Tallied) (records : List (Path × List Finding)) :
    (r.recordAll records).Tallied := by
  induction records generalizing r with
  | nil => exact tallied
  | cons first rest ih => exact ih (tallied.record first.1 first.2)

/-- Groups and the number of files make out the whole of a tallied report. -/
theorem Tallied.eq_of_groups {r : Report} (tallied : r.Tallied) :
    r = { success := r.findings.countP (·.severity == .error) == 0
          errorCount := r.findings.countP (·.severity == .error)
          warningCount := r.findings.countP (·.severity == .warning)
          filesChecked := r.filesChecked
          groups := r.groups } := by
  rw [← tallied.errors, ← tallied.warnings, ← tallied.success]

theorem filesChecked_recordAll (r : Report) (records : List (Path × List Finding)) :
    (r.recordAll records).filesChecked = r.filesChecked + records.length := by
  induction records generalizing r with
  | nil => rfl
  | cons first rest ih =>
    rw [recordAll_cons, ih, filesChecked_record, List.length_cons]
    omega

/-! Files that differ -/

/-- The groups of records that are all of different files: one for each file with findings. -/
def groupsOf (records : List (Path × List Finding)) : List Group :=
  (records.map fun (file, found) => ⟨file, found⟩).filter (!·.findings.isEmpty)

theorem groups_recordAll_of_new {r : Report} {records : List (Path × List Finding)}
    (apart : (records.map Prod.fst).Pairwise fun first second => first.same second = false)
    (new : ∀ g ∈ r.groups, ∀ file ∈ records.map Prod.fst, g.file.same file = false) :
    (r.recordAll records).groups = r.groups ++ groupsOf records := by
  induction records generalizing r with
  | nil => simp [groupsOf]
  | cons first rest ih =>
    obtain ⟨file, found⟩ := first
    rw [List.map_cons, List.pairwise_cons] at apart
    rw [recordAll_cons]
    by_cases none : found = []
    · rw [none, record_nil]
      have later := ih (r := { r with filesChecked := r.filesChecked + 1 }) apart.2
        fun g member other inside => new g member other (by simp_all)
      simpa [groupsOf] using later
    · have fresh : ∀ g ∈ r.groups, g.file.same file = false :=
        fun g member => new g member file (by simp)
      rw [record_of_ne_nil r file none, addTo_of_new fresh]
      -- the new group is that of a file which no later record names
      rw [ih apart.2]
      · simp [groupsOf, none]
      · intro g member other inside
        rcases List.mem_append.mp member with old | added
        · exact new g old other (by simp_all)
        · rw [List.mem_singleton] at added
          subst added
          exact apart.1 other inside

end Report
end HouseStyle
