import HouseStyle.Json.Printer
import HouseStyle.Json.Reader
import HouseStyle.Report.Basic

/-!
Findings and reports as JSON. A record is written as an object with its fields in order, and read back from
such an object or from an array of the fields' values; fields that are not known are passed over. A path that is
no text cannot be written, nor can what holds it.
-/

set_option autoImplicit false
namespace HouseStyle

/-! Writing -/

def Finding.toJson? (f : Finding) : Option Json := do
  return Json.record [
    some ("code", .text f.code), some ("rule", .text f.rule), some ("file", .text (← f.file.text?)),
    some ("message", .text f.message), f.line.map (("line", .natural ·)),
    f.column.map (("column", .natural ·)), some ("severity", .text f.severity.word)]

def Group.toJson? (g : Group) : Option Json := do
  return Json.record [
    some ("file", .text (← g.file.text?)), some ("findings", .array (← g.findings.mapM Finding.toJson?))]

def Report.toJson? (r : Report) : Option Json := do
  return Json.record [
    some ("success", .bool r.success), some ("error_count", .natural r.errorCount),
    some ("warning_count", .natural r.warningCount), some ("files_checked", .natural r.filesChecked),
    some ("files", .array (← r.groups.mapM Group.toJson?))]

def Finding.print? (layout : Json.Layout) (f : Finding) : Option String := f.toJson?.map (·.print layout)

def Report.print? (layout : Json.Layout) (r : Report) : Option String := r.toJson?.map (·.print layout)

/-! Reading -/

namespace Json

def asText? : Json → Option String
  | string text => text
  | _ => none

def asBool? : Json → Option Bool
  | bool value => some value
  | _ => none

def countLimit : Nat := Nat.pow 2 64

def asCount? : Json → Option Nat
  | natural value => if value < countLimit then some value else none
  | _ => none

def asOptionalCount? : Json → Option (Option Nat)
  | null => some none
  | value => (asCount? value).map some

def asList? {α : Type} (read : Json → Option α) : Json → Option (List α)
  | array items => items.mapM read
  | _ => none

def once? (fields : List (String × Json)) (name : String) : Option (Option Json) :=
  match fields.filter (·.1 == name) with
  | [] => some none
  | [(_, value)] => some (some value)
  | _ => none

/-- The values of a record's fields, in the order of the names; from an array, each value must be there. -/
def fieldsOf? (names : List String) : Json → Option (List (Option Json))
  | object fields => do
    let fields ← fields.mapM fun (key, value) => key.map fun key => (key, value)
    names.mapM (once? fields)
  | array items => if items.length == names.length then some (items.map some) else none
  | _ => none

end Json

/-- A severity by its word, or as an object with that word alone and null. -/
def Severity.ofJson? : Json → Option Severity
  | .string (some word) => ofWord? word
  | .object [(some word, .null)] => ofWord? word
  | _ => none

def Finding.ofJson? (value : Json) : Option Finding := do
  match ← value.fieldsOf? ["code", "rule", "file", "message", "line", "column", "severity"] with
  | [code, rule, file, message, line, column, severity] =>
    return {
      code := ← (← code).asText?
      rule := ← (← rule).asText?
      file := .ofText (← (← file).asText?)
      message := ← (← message).asText?
      line := ← (line.getD .null).asOptionalCount?
      column := ← (column.getD .null).asOptionalCount?
      severity := ← Severity.ofJson? (← severity) }
  | _ => none

def Group.ofJson? (value : Json) : Option Group := do
  match ← value.fieldsOf? ["file", "findings"] with
  | [file, findings] => return ⟨.ofText (← (← file).asText?), ← (← findings).asList? Finding.ofJson?⟩
  | _ => none

def Report.ofJson? (value : Json) : Option Report := do
  match ← value.fieldsOf? ["success", "error_count", "warning_count", "files_checked", "files"] with
  | [success, errors, warnings, checked, files] =>
    return {
      success := ← (← success).asBool?
      errorCount := ← (← errors).asCount?
      warningCount := ← (← warnings).asCount?
      filesChecked := ← (← checked).asCount?
      groups := ← (← files).asList? Group.ofJson? }
  | _ => none

def Report.parse? (text : String) : Option Report := (Json.parse text).bind ofJson?

def Finding.parse? (text : String) : Option Finding := (Json.parse text).bind ofJson?

end HouseStyle
