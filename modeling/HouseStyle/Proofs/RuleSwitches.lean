import HouseStyle.Proofs.FindingPlaces
import HouseStyle.Proofs.Validation

/-! Turning rules off takes away their own findings, and nothing else.

Whatever a rule of the house adds carries the name and the code of that rule, also the warning that stands in
for it when it could not be applied. So the findings of the rules that are on are those of all rules less the
ones that name a rule turned off. Every file has a group of its own, and so it makes no difference whether
findings are left out before they are grouped or after.
-/

set_option autoImplicit false
namespace HouseStyle

/-! Names and codes of findings -/

def Finding.Bears (f : Finding) (tag : RuleTag) : Prop := f.rule = tag.name ∧ f.code = tag.code

theorem Rule.Adds.bears {rule : Rule} {read : Reader} {subject : Subject} {f : Finding}
    (adds : rule.Adds read subject f) : f.Bears rule.tag := by
  cases adds with
  | plain plain =>
    obtain ⟨severity, message, rfl⟩ := plain
    exact ⟨rfl, rfl⟩
  | points _ points =>
    cases points with
    | line => exact ⟨rfl, rfl⟩
    | position => exact ⟨rfl, rfl⟩

theorem Rule.preset_bears {config : Config} {rule : Rule} (known : rule ∈ preset config) (read : Reader)
    (subject : Subject) : ∀ f ∈ Validator.ruleFindings rule subject (rule.check read subject), f.Bears rule.tag :=
  fun f member => (preset_adds known read subject f member).bears

/-- A name stands for one rule of the house. -/
theorem Rule.filter_preset {config : Config} {rule : Rule} (known : rule ∈ preset config) :
    (preset config).filter (·.name == rule.name) = [rule] := by
  simp only [preset, List.mem_cons, List.not_mem_nil, or_false] at known
  rcases known with rfl | rfl | rfl <;> rfl

/-! Switches -/

namespace Config

def allOn (c : Config) : Config :=
  { c with rules := c.rules.map fun (name, settings) => (name, { settings with enabled := some true }) }

def turnedOff (c : Config) : List String :=
  ((Rule.preset c).map Rule.name).filter fun name => (c.rule? name).bind (·.enabled) == some false

theorem rule?_allOn (c : Config) (name : String) :
    c.allOn.rule? name = (c.rule? name).map fun settings => { settings with enabled := some true } := by
  simp only [rule?, allOn, List.find?_map, Option.map_map]
  rfl

theorem isEnabled_allOn (c : Config) (name : String) : c.allOn.isEnabled name = true := by
  rw [isEnabled, rule?_allOn]
  cases c.rule? name <;> rfl

theorem preset_allOn (c : Config) : Rule.preset c.allOn = Rule.preset c := by
  have same : Rule.exemptions c.allOn = Rule.exemptions c := by
    rw [Rule.exemptions, rule?_allOn, Rule.exemptions]
    cases c.rule? FileNaming.tag.name <;> rfl
  rw [Rule.preset, same, ← Rule.preset]

theorem isEnabled_eq_false_iff (c : Config) (name : String) :
    c.isEnabled name = false ↔ (c.rule? name).bind (·.enabled) = some false := by
  unfold isEnabled
  cases (c.rule? name).bind (·.enabled) with
  | none => simp
  | some on => simp

theorem isEnabled_eq_not_contains (c : Config) {rule : Rule} (known : rule ∈ Rule.preset c) :
    c.isEnabled rule.name = !c.turnedOff.contains rule.name := by
  have named : rule.name ∈ (Rule.preset c).map Rule.name := List.mem_map_of_mem known
  have off : rule.name ∈ c.turnedOff ↔ c.isEnabled rule.name = false := by
    rw [turnedOff, List.mem_filter, isEnabled_eq_false_iff]
    simp [named]
  by_cases on : c.isEnabled rule.name
  · simp [on, off]
  · simp [on, off]

end Config

/-! Leaving findings out -/

namespace Report

/-- The report on so many files with these groups: counts and verdict are those of the findings. -/
def tally (filesChecked : Nat) (groups : List Group) : Report where
  success := (groups.flatMap Group.findings).countP (·.severity == .error) == 0
  errorCount := (groups.flatMap Group.findings).countP (·.severity == .error)
  warningCount := (groups.flatMap Group.findings).countP (·.severity == .warning)
  filesChecked := filesChecked
  groups := groups

/-- The report without the findings that name one of the rules. Groups that are left with none go, and the rest
is counted anew. -/
def without (r : Report) (names : List String) : Report :=
  let kept := r.groups.map fun g => { g with findings := g.findings.filter fun f => !names.contains f.rule }
  tally r.filesChecked (kept.filter (!·.findings.isEmpty))

/-- Leaving findings out of the groups of files is leaving them out of the files' findings. -/
theorem filter_groups (files : List Path) (out : Path → List Finding) (keep : Finding → Bool) :
    (((files.map fun file => (⟨file, out file⟩ : Group)).filter (!·.findings.isEmpty)).map
        fun g => { g with findings := g.findings.filter keep }).filter (!·.findings.isEmpty) =
      (files.map fun file => (⟨file, (out file).filter keep⟩ : Group)).filter (!·.findings.isEmpty) := by
  induction files with
  | nil => rfl
  | cons file rest ih =>
    -- a group is missing from the start, or is left with nothing, or stays
    by_cases none : out file = []
    · simpa [none] using ih
    · by_cases dropped : (out file).filter keep = []
      · simp only [List.map_cons, List.filter_cons, dropped]
        simpa [none, dropped] using ih
      · simp only [List.map_cons, List.filter_cons]
        simpa [none, dropped] using ih

theorem without_tally (filesChecked : Nat) (files : List Path) (out : Path → List Finding) (names : List String) :
    (tally filesChecked ((files.map fun file => ⟨file, out file⟩).filter (!·.findings.isEmpty))).without names =
      tally filesChecked ((files.map fun file =>
        ⟨file, (out file).filter fun f => !names.contains f.rule⟩).filter (!·.findings.isEmpty)) := by
  rw [without, ← filter_groups]
  rfl

end Report

namespace Validator

theorem validate_eq_tally (v : Validator) (read : Reader) {files : FileSet} (settled : files.Settled)
    (pool : Pool files.size) : v.validate read files pool = Report.tally files.size
      ((files.files.map fun file => ⟨file, v.checkFile read files file⟩).filter (!·.findings.isEmpty)) := by
  have recorded := validate_eq_recordAll v read files pool
  have tallied : (v.validate read files pool).Tallied := by
    rw [recorded]
    exact Report.tallied_empty.recordAll _
  have checked : (v.validate read files pool).filesChecked = files.size := by
    rw [recorded, Report.filesChecked_recordAll]
    simp [Report.empty, FileSet.size]
  rw [tallied.eq_of_groups, Report.findings, groups_validate v read settled pool, checked]
  rfl

/-- Where rules put their names on what they find, choosing findings by name is choosing rules. -/
theorem filter_flatMap_of_bears {rules : List Rule} {out : Rule → List Finding}
    (bears : ∀ rule ∈ rules, ∀ f ∈ out rule, f.Bears rule.tag) (keep : String → Bool) :
    (rules.flatMap out).filter (fun f => keep f.rule) = (rules.filter fun rule => keep rule.name).flatMap out := by
  induction rules with
  | nil => rfl
  | cons rule rest ih =>
    have later := ih fun other member => bears other (List.mem_cons_of_mem rule member)
    have named : ∀ f ∈ out rule, keep f.rule = keep rule.name := by
      intro f member
      rw [(bears rule List.mem_cons_self f member).1, Rule.tag]
    rw [List.flatMap_cons, List.filter_append, later, List.filter_congr named, List.filter_cons]
    by_cases kept : keep rule.name
    · simp [kept]
    · simp [kept]

def ownFindings (read : Reader) (files : FileSet) (file : Path) (rule : Rule) : List Finding :=
  ruleFindings rule ⟨file, files.resolve file⟩ (rule.check read ⟨file, files.resolve file⟩)

section
variable (config : Config) (read : Reader) (files : FileSet) (file : Path)

theorem checkFile_preset : (ofConfig config (Rule.preset config)).checkFile read files file =
    ((Rule.preset config).filter fun rule => config.isEnabled rule.name).flatMap (ownFindings read files file) := rfl

/-- Rules that are on find what all rules find, less what names a rule that is off. -/
theorem checkFile_eq_filter : (ofConfig config (Rule.preset config)).checkFile read files file =
    ((ofConfig config.allOn (Rule.preset config.allOn)).checkFile read files file).filter
      fun f => !config.turnedOff.contains f.rule := by
  have every : (Rule.preset config).filter (fun rule => config.allOn.isEnabled rule.name) = Rule.preset config :=
    List.filter_eq_self.mpr fun rule _ => config.isEnabled_allOn rule.name
  have bears : ∀ rule ∈ Rule.preset config, ∀ f ∈ ownFindings read files file rule, f.Bears rule.tag :=
    fun rule known => Rule.preset_bears known read _
  rw [checkFile_preset, checkFile_preset, config.preset_allOn, every,
    filter_flatMap_of_bears bears fun name => !config.turnedOff.contains name]
  rw [List.filter_congr fun rule known => config.isEnabled_eq_not_contains known]

/-- The name of a rule is on its own findings only. -/
theorem filter_name_checkFile {rule : Rule} (known : rule ∈ Rule.preset config) :
    ((ofConfig config (Rule.preset config)).checkFile read files file).filter (fun f => f.rule == rule.name) =
      if config.isEnabled rule.name then ownFindings read files file rule else [] := by
  have bears : ∀ other ∈ (Rule.preset config).filter (fun rule => config.isEnabled rule.name),
      ∀ f ∈ ownFindings read files file other, f.Bears other.tag :=
    fun other active => Rule.preset_bears (List.mem_filter.mp active).1 read _
  rw [checkFile_preset, filter_flatMap_of_bears bears (· == rule.name), List.filter_comm,
    Rule.filter_preset known]
  by_cases on : config.isEnabled rule.name
  · simp [on]
  · simp [on]

end

theorem filter_name_findings (config : Config) (read : Reader) {files : FileSet} (settled : files.Settled)
    (pool : Pool files.size) {rule : Rule} (known : rule ∈ Rule.preset config) :
    ((ofConfig config (Rule.preset config)).validate read files pool).findings.filter (·.rule == rule.name) =
      if config.isEnabled rule.name then files.files.flatMap fun file => ownFindings read files file rule
      else [] := by
  rw [Report.findings, groups_validate _ read settled pool, findings_of_groups, List.filter_flatMap]
  simp only [filter_name_checkFile config read files _ known]
  by_cases on : config.isEnabled rule.name
  · simp [on]
  · simp [on]

/-- With rules turned off, a validation reports what it reports with all of them on, less the findings of those
that are off. What a rule finds carries its name and its code, and is the same whichever other rules are on. -/
theorem validate_eq_without (config : Config) (read : Reader) (root : Option Path) (inserted : List Path)
    (pool fullPool : Pool (FileSet.insertAll ⟨root, []⟩ inserted).size) :
    let files := FileSet.insertAll ⟨root, []⟩ inserted
    let report := (ofConfig config (Rule.preset config)).validate read files pool
    let full := (ofConfig config.allOn (Rule.preset config.allOn)).validate read files fullPool
    report = full.without config.turnedOff ∧
      ∀ rule ∈ Rule.preset config,
        (∀ file, ∀ f ∈ ownFindings read files file rule, f.rule = rule.name ∧ f.code = rule.code) ∧
        full.findings.filter (·.rule == rule.name) =
          files.files.flatMap (fun file => ownFindings read files file rule) ∧
        report.findings.filter (·.rule == rule.name) =
          if config.isEnabled rule.name then files.files.flatMap fun file => ownFindings read files file rule
          else [] := by
  intro files report full
  have settled : files.Settled := (FileSet.settled_nil root).insertAll inserted
  refine ⟨?_, fun rule known => ⟨fun file => Rule.preset_bears known read _, ?_, ?_⟩⟩
  · have filtered := funext (checkFile_eq_filter config read files)
    rw [show full = _ from validate_eq_tally _ read settled fullPool, Report.without_tally]
    rw [show report = _ from validate_eq_tally _ read settled pool, filtered]
  · have named := filter_name_findings config.allOn read settled fullPool (config.preset_allOn ▸ known)
    rwa [if_pos (config.isEnabled_allOn rule.name)] at named
  · exact filter_name_findings config read settled pool known

/-- A file that is badly named and cannot be read: one of the two warnings goes with its rule. -/
theorem validate_eq_without_unreadable :
    let config : Config := { rules := [("interface-naming", { enabled := some false }),
      ("file-naming", { options := [("exemptions", .array [])] })] }
    let read : Reader := fun _ => .error .notFound
    let files := FileSet.insertAll ⟨none, []⟩ ["a.controller.ts"]
    let report := (ofConfig config (Rule.preset config)).validate read files
    let full := (ofConfig config.allOn (Rule.preset config.allOn)).validate read files
    full.findings.map (·.rule) = ["file-naming", "interface-naming", "controller-return-type"] ∧
      report.findings.map (·.rule) = ["file-naming", "controller-return-type"] ∧
      report = full.without ["interface-naming"] ∧
      ∀ f ∈ ownFindings read files "a.controller.ts" (ControllerReturn.rule TypeScript.parseFile),
        f.code = "GL003" := by
  intro config read files report full
  have off : config.turnedOff = ["interface-naming"] := by decide +kernel
  obtain ⟨less, each⟩ :=
    validate_eq_without config read none ["a.controller.ts"] (.inTurn files.size) (.inTurn files.size)
  rw [off] at less
  refine ⟨by decide +kernel, by decide +kernel, less, fun f member => ?_⟩
  exact ((each (ControllerReturn.rule TypeScript.parseFile) (by simp [Rule.preset])).1 _ f member).2

end Validator
end HouseStyle
