import HouseStyle.Proofs.Grouping
import HouseStyle.Report.Text

/-! What the text of a report tells about the records it was made from.

The text has a section for each file that was recorded with findings. The counts in the head of a section are taken
from its group, and the totals at the end from the counters that every record adds to; that they agree is a fact about
all records together, and so is that each finding is either shown in its section or counted there as left out.
-/

set_option autoImplicit false
namespace HouseStyle

/-- What a reader learns about a file: how many errors and warnings there are, which findings are shown, and how many
are left out. -/
structure FileSection where
  file : Path
  errors : Nat
  warnings : Nat
  shown : List Finding
  elided : Nat

namespace FileSection

def heading (f : Finding) : String := "     " ++ ReportLine.icon f.severity ++ " " ++ f.rule

/-- The lines of a section. Counts of nothing are left out. -/
def lines (verbose : Bool) (place : Finding → String) (s : FileSection) : List String :=
  ["", "📄 " ++ s.file.display] ++ (if s.errors = 0 then [] else ["   ❌ Errors: " ++ toString s.errors]) ++
    (if s.warnings = 0 then [] else ["   ⚠️  Warnings: " ++ toString s.warnings]) ++
    (if verbose then s.shown.flatMap fun f => [heading f ++ ": " ++ f.message, "        📍 " ++ place f]
      else s.shown.map fun f => heading f ++ " → " ++ place f) ++
    if s.elided = 0 then [] else ["     ... and " ++ toString s.elided ++ " more"]

/-- The section tells what was recorded under its file: all of it, or the first three findings and how many more. -/
structure Tells (records : List (Path × List Finding)) (verbose : Bool) (s : FileSection) : Prop where
  errors : s.errors = (Report.foundUnder records s.file).countP (·.severity == .error)
  warnings : s.warnings = (Report.foundUnder records s.file).countP (·.severity == .warning)
  shown : s.shown =
    if verbose then Report.foundUnder records s.file else (Report.foundUnder records s.file).take 3
  elided : s.elided = if verbose then 0 else (Report.foundUnder records s.file).length - 3

def totalErrors (sections : List FileSection) : Nat := (sections.map errors).sum

def totalWarnings (sections : List FileSection) : Nat := (sections.map warnings).sum

/-- The lines of a text with the sections and their totals, or the line that there is nothing to tell. -/
def page (verbose : Bool) (place : Finding → String) (sections : List FileSection) : List String :=
  if sections = [] then ["✅ All coding guidelines passed!"]
  else
    ["", "📋 VALIDATION RESULTS:", String.ofList (List.replicate 50 '=')] ++ sections.flatMap (lines verbose place) ++
      ["", "📊 SUMMARY:", "   ❌ Total errors: " ++ toString (totalErrors sections),
        "   ⚠️  Total warnings: " ++ toString (totalWarnings sections)] ++
      if verbose then [] else ["", "💡 Run with --verbose for detailed messages"]

def text (verbose : Bool) (place : Finding → String) (sections : List FileSection) : String :=
  String.join ((page verbose place sections).map (· ++ "\n"))

def ofGroup (verbose : Bool) (g : Group) : FileSection where
  file := g.file
  errors := g.errorCount
  warnings := g.warningCount
  shown := if verbose then g.findings else g.findings.take 3
  elided := if verbose then 0 else g.findings.length - 3

end FileSection

/-! Groups and sections -/

theorem ReportLine.map_write_given (locator : Locator) (n : Nat) (line : ReportLine) :
    (if n > 0 then [line] else []).map (write locator) = if n = 0 then [] else [line.write locator] := by
  cases n with
  | zero => rfl
  | succ n => rfl

theorem Group.map_write_detailLines (locator : Locator) (g : Group) :
    g.detailLines.map (ReportLine.write locator) = g.findings.flatMap fun f =>
      [FileSection.heading f ++ ": " ++ f.message, "        📍 " ++ locator.render f] := by
  rw [detailLines, List.map_flatMap]
  rfl

theorem Group.map_write_previewLines (locator : Locator) (g : Group) :
    g.previewLines.map (ReportLine.write locator) =
      ((g.findings.take 3).map fun f => FileSection.heading f ++ " → " ++ locator.render f) ++
        if g.findings.length - 3 = 0 then [] else ["     ... and " ++ toString (g.findings.length - 3) ++ " more"] := by
  have more : g.findings.length > previewLimit ↔ g.findings.length - previewLimit > 0 := by omega
  simp only [previewLines, more]
  rw [List.map_append, List.map_map, ReportLine.map_write_given]
  rfl

theorem Group.map_write_lines (verbose : Bool) (locator : Locator) (g : Group) :
    (g.lines verbose).map (ReportLine.write locator) =
      (FileSection.ofGroup verbose g).lines verbose locator.render := by
  rw [lines, List.map_append, List.map_append, List.map_append, ReportLine.map_write_given, ReportLine.map_write_given,
    FileSection.lines]
  cases verbose with
  | true =>
    rw [if_pos rfl, map_write_detailLines]
    exact (List.append_nil _).symm
  | false =>
    rw [if_neg Bool.false_ne_true, map_write_previewLines]
    exact (List.append_assoc _ _ _).symm

theorem FileSection.tells_ofGroup {records : List (Path × List Finding)} {groups : List Group}
    (grouped : Report.Grouped records groups) (verbose : Bool) {g : Group} (member : g ∈ groups) :
    (ofGroup verbose g).Tells records verbose := by
  have found : g.findings = Report.foundUnder records g.file :=
    grouped.findings_of_find? (Report.find?_of_apart grouped.apart member)
  refine ⟨?_, ?_, ?_, ?_⟩
  · rw [ofGroup, Group.errorCount, found]
    rfl
  · rw [ofGroup, Group.warningCount, Group.errorCount, Finding.length_sub_errors, found]
  · rw [ofGroup, found]
  · rw [ofGroup, found]

namespace FileSection

variable {records : List (Path × List Finding)} {verbose : Bool}

/-- Every finding of a file is shown or left out, and it is an error or a warning. -/
theorem Tells.accounts {s : FileSection} (tells : s.Tells records verbose) :
    s.shown.length + s.elided = s.errors + s.warnings := by
  have both : s.errors + s.warnings = (Report.foundUnder records s.file).length := by
    have split := Finding.length_sub_errors (Report.foundUnder records s.file)
    have bound := List.countP_le_length (p := Finding.isError) (l := Report.foundUnder records s.file)
    have errors : s.errors = (Report.foundUnder records s.file).countP Finding.isError := tells.errors
    rw [errors, tells.warnings, ← split]
    omega
  rw [both, tells.shown, tells.elided]
  cases verbose with
  | true => rfl
  | false =>
    simp only [Bool.false_eq_true, if_false, List.length_take]
    omega

theorem sum_accounts {sections : List FileSection} (each : ∀ s ∈ sections, s.Tells records verbose) :
    (sections.map fun s => s.shown.length + s.elided).sum = totalErrors sections + totalWarnings sections := by
  induction sections with
  | nil => rfl
  | cons s rest ih =>
    have here := (each s List.mem_cons_self).accounts
    have later := ih fun other inside => each other (List.mem_cons_of_mem s inside)
    simp only [totalErrors, totalWarnings, List.map_cons, List.sum_cons] at later ⊢
    omega

end FileSection

namespace Report

/-! The text -/

theorem totals_ofGroups {r : Report} (tallied : r.Tallied) (verbose : Bool) :
    FileSection.totalErrors (r.groups.map (.ofGroup verbose)) = r.errorCount ∧
      FileSection.totalWarnings (r.groups.map (.ofGroup verbose)) = r.warningCount := by
  rw [tallied.errors_sum, tallied.warnings_sum, FileSection.totalErrors, FileSection.totalWarnings, List.map_map,
    List.map_map]
  exact ⟨rfl, rfl⟩

theorem map_write_lines {r : Report} (tallied : r.Tallied) (verbose : Bool) (locator : Locator) :
    (r.lines verbose).map (ReportLine.write locator) =
      FileSection.page verbose locator.render (r.groups.map (.ofGroup verbose)) := by
  obtain ⟨errors, warnings⟩ := totals_ofGroups tallied verbose
  have sections : (r.groups.flatMap (Group.lines verbose)).map (ReportLine.write locator) =
      (r.groups.map (.ofGroup verbose)).flatMap (FileSection.lines verbose locator.render) := by
    rw [List.map_flatMap, List.flatMap_map]
    exact List.flatMap_congr fun g _ => g.map_write_lines verbose locator
  rw [lines, FileSection.page, errors, warnings, hasFindings, ← sections]
  cases r.groups with
  | nil => rfl
  | cons g rest =>
    have some : (g :: rest).map (FileSection.ofGroup verbose) ≠ [] := List.cons_ne_nil _ _
    rw [List.isEmpty_cons, Bool.not_false, if_pos rfl, if_neg some, List.map_append, List.map_append, List.map_append]
    cases verbose with
    | true => rfl
    | false => rfl

theorem render_eq_text {r : Report} (tallied : r.Tallied) (verbose : Bool) (locator : Locator) :
    r.render verbose locator = FileSection.text verbose locator.render (r.groups.map (.ofGroup verbose)) := by
  rw [FileSection.text, ← map_write_lines tallied, List.map_map]
  rfl

/-- A text with findings begins with an empty line. -/
theorem render_eq_passed_iff (verbose : Bool) (locator : Locator) (r : Report) :
    r.render verbose locator = "✅ All coding guidelines passed!\n" ↔ r.hasFindings = false := by
  cases found : r.hasFindings with
  | false =>
    simp only [render, lines, found, iff_true]
    rfl
  | true =>
    have blank : ReportLine.blank.write locator = "" := rfl
    have first : (r.render verbose locator).toList.head? = some '\n' := by
      rw [render, lines, found, if_pos rfl, List.append_assoc, List.append_assoc, List.cons_append, List.map_cons,
        String.toList_join, List.flatMap_cons, blank, String.empty_append]
      rfl
    simp only [reduceCtorEq, iff_false]
    intro passed
    rw [passed] at first
    revert first
    decide

theorem hasFindings_eq_false_iff {r : Report} (tallied : r.Tallied) (filled : ∀ g ∈ r.groups, g.findings ≠ []) :
    r.hasFindings = false ↔ r.errorCount = 0 ∧ r.warningCount = 0 := by
  rw [← Bool.not_eq_true, hasFindings_iff filled, ← tallied.total]
  omega

/-- The sections give an account of all that was recorded. -/
structure Account (records : List (Path × List Finding)) (verbose : Bool) (r : Report)
    (sections : List FileSection) : Prop where
  ordered : sections.map (·.file.components) = keysOf records
  tells : ∀ s ∈ sections, s.Tells records verbose
  errors : FileSection.totalErrors sections = r.errorCount
  warnings : FileSection.totalWarnings sections = r.warningCount
  conserved : (sections.map fun s => s.shown.length + s.elided).sum = r.errorCount + r.warningCount
  complete : verbose = true → (sections.flatMap (·.shown)).Perm (records.flatMap Prod.snd)

theorem account_ofGroups (records : List (Path × List Finding)) (verbose : Bool) :
    Account records verbose (empty.recordAll records)
      ((empty.recordAll records).groups.map (.ofGroup verbose)) := by
  have grouped := grouped_recordAll records
  have tallied := tallied_empty.recordAll records
  obtain ⟨errors, warnings⟩ := totals_ofGroups tallied verbose
  have tells : ∀ s ∈ (empty.recordAll records).groups.map (FileSection.ofGroup verbose), s.Tells records verbose := by
    intro s inside
    obtain ⟨g, member, rfl⟩ := List.mem_map.mp inside
    exact FileSection.tells_ofGroup grouped verbose member
  refine ⟨?_, tells, errors, warnings, ?_, ?_⟩
  · rw [List.map_map, ← grouped.keys]
    rfl
  · rw [FileSection.sum_accounts tells, errors, warnings]
  · rintro rfl
    rw [List.flatMap_map]
    exact findings_recordAll_perm records

/-- Whatever was recorded, the text gives an account of it: the totals are the sums of the counts in the sections, and
in each section all findings are shown, or the first three of them with the number of those that are left out. Only
when both totals are zero the text says nothing but that. -/
theorem render_accounts (records : List (Path × List Finding)) (verbose : Bool) (locator : Locator) :
    let r := empty.recordAll records
    (r.render verbose locator = "✅ All coding guidelines passed!\n" ↔ r.errorCount = 0 ∧ r.warningCount = 0) ∧
      ∃ sections, Account records verbose r sections ∧
        r.render verbose locator = FileSection.text verbose locator.render sections := by
  have grouped := grouped_recordAll records
  have tallied := tallied_empty.recordAll records
  refine ⟨?_, _, account_ofGroups records verbose, ?_⟩
  · rw [render_eq_passed_iff, hasFindings_eq_false_iff tallied grouped.filled]
  · exact render_eq_text tallied verbose locator

end Report
end HouseStyle
