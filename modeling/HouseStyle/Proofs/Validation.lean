import HouseStyle.Proofs.FileSets
import HouseStyle.Proofs.Reports
import HouseStyle.Validator

/-! The report of a validation, whichever way the files are checked.

Checks that run side by side end in any order, but each result goes to the place of its file; so what is
recorded is the same list as for files checked one by one. The files of a set differ from each other, so
no two of them share a group.
-/

set_option autoImplicit false
namespace HouseStyle

namespace Validator

/-! Checking side by side -/

theorem getElem?_places {α β : Type} (job : α → β) (items : List α) (order : List Nat)
    (places : List (Option β)) (i : Nat) :
    (order.foldl (fun places index => places.set index (items[index]?.map job)) places)[i]? =
      if i ∈ order then places[i]?.map fun _ => items[i]?.map job else places[i]? := by
  -- a job that ends later writes to its own place only, so the earlier results stay
  induction order generalizing places with
  | nil => simp
  | cons index rest ih =>
    rw [List.foldl_cons, ih, List.getElem?_set]
    by_cases here : index = i
    · subst here
      by_cases inside : index < places.length
      · simp [inside]
      · simp [inside]
    · have there : i ≠ index := Ne.symm here
      simp [here, there]

/-- However the jobs end, the results stand in the order of the items. -/
theorem collect_eq_map {α β : Type} (job : α → β) (items : List α) {order : List Nat}
    (complete : order.Perm (List.range items.length)) : collect job items order = items.map job := by
  have filled : order.foldl (fun places index => places.set index (items[index]?.map job))
      (items.map fun _ => none) = items.map fun item => some (job item) := by
    apply List.ext_getElem?
    intro i
    rw [getElem?_places]
    have ended : i ∈ order ↔ i < items.length := by rw [complete.mem_iff, List.mem_range]
    by_cases inside : i < items.length
    · simp [ended, inside]
    · simp [ended, inside]
  rw [collect, filled, List.filterMap_map]
  exact congrFun List.filterMap_eq_map items

theorem perFile_eq_map (v : Validator) (read : Reader) (files : FileSet) (pool : Pool files.size) :
    v.perFile read files pool = files.files.map (v.checkFile read files) := by
  cases pool with
  | unavailable => rfl
  | ending order complete =>
    rw [perFile]
    split
    · exact collect_eq_map _ _ complete
    · rfl

theorem validate_eq_recordAll (v : Validator) (read : Reader) (files : FileSet) (pool : Pool files.size) :
    v.validate read files pool =
      Report.empty.recordAll (files.files.map fun file => (file, v.checkFile read files file)) := by
  rw [validate, perFile_eq_map, List.map_prod_left_eq_zip, Report.recordAll]

/-! What one rule adds -/

/-- The warning that stands in for a rule that could not be applied to a file. -/
structure StandsIn (rule : Rule) (file : Path) (reason : String) (warning : Finding) : Prop where
  severity : warning.severity = .warning
  named : warning.rule = rule.name
  coded : warning.code = rule.code
  located : warning.file = file
  unplaced : warning.line = none ∧ warning.column = none
  message : warning.message =
    "Rule '" ++ rule.name ++ "' could not be applied to " ++ file.display ++ ": " ++ reason

/-- What the verdict of a rule on a file adds to the findings of the file. -/
inductive Contributes (rule : Rule) (file : Path) : Verdict → List Finding → Prop where
  | findings (found : List Finding) : Contributes rule file (.findings found) found
  | failed {error : RuleError} {warning : Finding} :
      StandsIn rule file error.message warning → Contributes rule file (.failed error) [warning]
  | brokenOff {reason : Option String} {warning : Finding} :
      StandsIn rule file (reason.getD "rule panicked") warning →
      Contributes rule file (.brokenOff reason) [warning]

theorem fault_standsIn (rule : Rule) (subject : Subject) (reason : String) :
    StandsIn rule subject.path reason (fault rule subject reason) :=
  ⟨rfl, rfl, rfl, rfl, ⟨rfl, rfl⟩, rfl⟩

theorem ruleFindings_contributes (rule : Rule) (subject : Subject) (verdict : Verdict) :
    Contributes rule subject.path verdict (ruleFindings rule subject verdict) := by
  cases verdict with
  | findings found => exact .findings found
  | failed error => exact .failed (fault_standsIn rule subject error.message)
  | brokenOff reason => exact .brokenOff (fault_standsIn rule subject _)

/-! The whole report -/

theorem groups_validate (v : Validator) (read : Reader) {files : FileSet} (settled : files.Settled)
    (pool : Pool files.size) :
    (v.validate read files pool).groups =
      (files.files.map fun file => ⟨file, v.checkFile read files file⟩).filter (!·.findings.isEmpty) := by
  have apart : ((files.files.map fun file => (file, v.checkFile read files file)).map Prod.fst).Pairwise
      fun first second => first.same second = false := by
    rw [List.map_map]
    exact (List.map_id' files.files).symm ▸ settled.not_same
  rw [validate_eq_recordAll, Report.groups_recordAll_of_new apart (by simp [Report.empty])]
  simp [Report.empty, Report.groupsOf, Function.comp_def]

theorem findings_of_groups (out : Path → List Finding) (files : List Path) :
    ((files.map fun file => (⟨file, out file⟩ : Group)).filter (!·.findings.isEmpty)).flatMap Group.findings =
      files.flatMap out := by
  induction files with
  | nil => rfl
  | cons file rest ih =>
    by_cases none : out file = []
    · simp [none, ih]
    · simp [none, ih]

/-- The report of a validation: what each active rule adds is put together file by file, files without
findings leave no group, and the counts are those of all findings. Neither the number of workers nor the
order in which checks end makes a difference. -/
theorem validate_report (config : Config) (rules : List Rule) (read : Reader) (root : Option Path)
    (inserted : List Path) (pool : Pool (FileSet.insertAll ⟨root, []⟩ inserted).size) :
    let files := FileSet.insertAll ⟨root, []⟩ inserted
    let active := rules.filter fun rule => config.isEnabled rule.name
    let validator := ofConfig config rules
    ∃ contribution : Rule → Path → List Finding,
      (∀ rule ∈ active, ∀ file ∈ files.files,
        Contributes rule file (rule.check read ⟨file, files.resolve file⟩) (contribution rule file)) ∧
      let out := fun file => active.flatMap fun rule => contribution rule file
      let found := files.files.flatMap out
      validator.validate read files pool =
        { success := found.countP (·.severity == .error) == 0
          errorCount := found.countP (·.severity == .error)
          warningCount := found.countP (·.severity == .warning)
          filesChecked := files.files.length
          groups := (files.files.map fun file => ⟨file, out file⟩).filter (!·.findings.isEmpty) } ∧
      (validator.validate read files pool).findings = found ∧
      ∀ (parallelism : Nat) (other : Pool files.size),
        { validator with parallelism }.validate read files other = validator.validate read files pool := by
  intro files active validator
  have settled : files.Settled := (FileSet.settled_nil root).insertAll inserted
  have groups := groups_validate validator read settled pool
  have recorded := validate_eq_recordAll validator read files pool
  have tallied : (validator.validate read files pool).Tallied := by
    rw [recorded]
    exact Report.tallied_empty.recordAll _
  have checked : (validator.validate read files pool).filesChecked = files.files.length := by
    rw [recorded, Report.filesChecked_recordAll]
    simp [Report.empty]
  have found : (validator.validate read files pool).findings =
      files.files.flatMap (validator.checkFile read files) := by
    rw [Report.findings, groups, findings_of_groups]
  refine ⟨fun rule file => ruleFindings rule ⟨file, files.resolve file⟩ (rule.check read ⟨file, files.resolve file⟩),
    fun rule _ file _ => ruleFindings_contributes rule ⟨file, files.resolve file⟩ _, ?_, found, ?_⟩
  · have whole := tallied.eq_of_groups
    rw [found, checked, groups] at whole
    exact whole
  · intro parallelism other
    rw [validate_eq_recordAll, recorded]
    rfl

end Validator
end HouseStyle
