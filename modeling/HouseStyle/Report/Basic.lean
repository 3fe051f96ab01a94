import HouseStyle.Finding

/-!
The outcome of a run: the findings grouped by file, in the order in which files were first found wanting,
and the counts over all of them.
-/

set_option autoImplicit false
namespace HouseStyle

structure Group where
  file : Path
  findings : List Finding
  deriving DecidableEq, Repr

namespace Group

def errorCount (g : Group) : Nat := g.findings.countP Finding.isError

def warningCount (g : Group) : Nat := g.findings.length - g.errorCount

end Group

structure Report where
  success : Bool
  errorCount : Nat
  warningCount : Nat
  filesChecked : Nat
  groups : List Group
  deriving DecidableEq, Repr

namespace Report

def empty : Report := ⟨true, 0, 0, 0, []⟩

/-- The groups with further findings of a file: at the end of its group, or as a group of their own. -/
def addTo (file : Path) (findings : List Finding) : List Group → List Group
  | [] => [⟨file, findings⟩]
  | g :: rest =>
    if g.file.same file then { g with findings := g.findings ++ findings } :: rest
    else g :: addTo file findings rest

def record (r : Report) (file : Path) (findings : List Finding) : Report :=
  let checked := { r with filesChecked := r.filesChecked + 1 }
  if findings.isEmpty then checked
  else
    let errors := findings.countP Finding.isError
    { checked with
      errorCount := r.errorCount + errors
      warningCount := r.warningCount + (findings.length - errors)
      success := r.errorCount + errors == 0
      groups := addTo file findings r.groups }

def findings (r : Report) : List Finding := r.groups.flatMap Group.findings

def bySeverity (r : Report) (severity : Severity) : List Finding :=
  r.findings.filter (·.severity == severity)

def hasFindings (r : Report) : Bool := !r.groups.isEmpty

def forFile? (r : Report) (file : Path) : Option Group :=
  r.groups.find? (·.file.same file)

end Report
end HouseStyle
