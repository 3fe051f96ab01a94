import HouseStyle.Report.Basic
import HouseStyle.Report.Locator

/-!
The report as text for people. It is laid out as a list of lines, each of which knows what it shows, and
the lines are then written one after the other.
-/

set_option autoImplicit false
namespace HouseStyle

inductive ReportLine where
  | passed
  | blank
  | title
  | rule
  | file (path : Path)
  | errors (count : Nat)
  | warnings (count : Nat)
  | preview (finding : Finding)
  | detail (finding : Finding)
  | place (finding : Finding)
  | elided (count : Nat)
  | summary
  | totalErrors (count : Nat)
  | totalWarnings (count : Nat)
  | hint
  deriving DecidableEq, Repr

namespace ReportLine

def icon : Severity → String
  | .error => "❌"
  | .warning => "⚠️"

def write (locator : Locator) : ReportLine → String
  | passed => "✅ All coding guidelines passed!"
  | blank => ""
  | title => "📋 VALIDATION RESULTS:"
  | rule => String.ofList (List.replicate 50 '=')
  | file path => "📄 " ++ path.display
  | errors count => "   ❌ Errors: " ++ toString count
  | warnings count => "   ⚠️  Warnings: " ++ toString count
  | preview f => "     " ++ icon f.severity ++ " " ++ f.rule ++ " → " ++ locator.render f
  | detail f => "     " ++ icon f.severity ++ " " ++ f.rule ++ ": " ++ f.message
  | place f => "        📍 " ++ locator.render f
  | elided count => "     ... and " ++ toString count ++ " more"
  | summary => "📊 SUMMARY:"
  | totalErrors count => "   ❌ Total errors: " ++ toString count
  | totalWarnings count => "   ⚠️  Total warnings: " ++ toString count
  | hint => "💡 Run with --verbose for detailed messages"

end ReportLine

def previewLimit : Nat := 3

namespace Group

def detailLines (g : Group) : List ReportLine :=
  g.findings.flatMap fun f => [.detail f, .place f]

def previewLines (g : Group) : List ReportLine :=
  (g.findings.take previewLimit).map .preview ++
    if g.findings.length > previewLimit then [.elided (g.findings.length - previewLimit)] else []

def lines (verbose : Bool) (g : Group) : List ReportLine :=
  [.blank, .file g.file] ++
    (if g.errorCount > 0 then [.errors g.errorCount] else []) ++
    (if g.warningCount > 0 then [.warnings g.warningCount] else []) ++
    if verbose then g.detailLines else g.previewLines

end Group

namespace Report

def lines (verbose : Bool) (r : Report) : List ReportLine :=
  if r.hasFindings then
    [.blank, .title, .rule] ++ r.groups.flatMap (Group.lines verbose) ++
      [.blank, .summary, .totalErrors r.errorCount, .totalWarnings r.warningCount] ++
      if verbose then [] else [.blank, .hint]
  else [.passed]

def render (verbose : Bool) (locator : Locator) (r : Report) : String :=
  String.join ((r.lines verbose).map fun line => line.write locator ++ "\n")

end Report
end HouseStyle
