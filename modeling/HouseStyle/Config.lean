import HouseStyle.Disk
import HouseStyle.Selection.Policy
import HouseStyle.Toml.Document

/-!
The configuration. What is not given takes its default and what is not known is passed over, but a value of
the wrong type spoils the whole.
-/

set_option autoImplicit false
namespace HouseStyle

structure RuleSettings where
  enabled : Option Bool := none
  options : List (String × Toml.Value) := []

def RuleSettings.strings? (s : RuleSettings) (key : String) : Option (List String) :=
  ((Toml.Value.get? s.options key).bind (·.asArray?)).map fun items => items.filterMap (·.asString?)

structure Config where
  selection : SelectionSettings := {}
  parallelism : Option Nat := none
  rules : List (String × RuleSettings) := []

inductive ConfigError where
  | unreadable (path : Path) (cause : IoError)
  | malformed
  deriving DecidableEq, Repr

def ConfigError.message : ConfigError → String
  | .unreadable path cause => "Failed to read config file " ++ path.display ++ ": " ++ cause.message
  | .malformed => "Failed to parse config:"

namespace Config

def rule? (c : Config) (name : String) : Option RuleSettings :=
  (c.rules.find? (·.1 == name)).map (·.2)

/-- A rule is on unless it is turned off. -/
def isEnabled (c : Config) (name : String) : Bool :=
  ((c.rule? name).bind (·.enabled)).getD true

/-! Reading -/

/-- The values of a record's fields, by name from a table or by place from an array. -/
def fields? (names : List String) : Toml.Value → Option (List (Option Toml.Value))
  | .table entries => some (names.map (Toml.Value.get? entries))
  | .array items => some ((List.range names.length).map (items[·]?))
  | _ => none

def fieldOr {α : Type} (default : α) (read : Toml.Value → Option α) : Option Toml.Value → Option α
  | none => some default
  | some value => read value

def selection? (value : Toml.Value) : Option SelectionSettings := do
  let default : SelectionSettings := {}
  match ← fields? ["scan_roots", "extension", "exclude_dirs", "test_suffixes", "exclude", "project_marker"]
      value with
  | [scanRoots, extension, excludedDirectories, testSuffixes, excluded, projectMarker] =>
    return {
      scanRoots := ← fieldOr default.scanRoots (fun v => v.asStrings?.map (·.map Path.ofText)) scanRoots
      extension := ← fieldOr default.extension (·.asString?) extension
      excludedDirectories := ← fieldOr default.excludedDirectories (·.asStrings?) excludedDirectories
      testSuffixes := ← fieldOr default.testSuffixes (·.asStrings?) testSuffixes
      excluded := ← fieldOr default.excluded (·.asStrings?) excluded
      projectMarker := ← fieldOr default.projectMarker (fun v => v.asString?.map Path.ofText) projectMarker }
  | _ => none

def parallelism? (value : Toml.Value) : Option (Option Nat) := do
  match ← fields? ["parallelism"] value with
  | [parallelism] => fieldOr none (fun v => v.asNatural?.map some) parallelism
  | _ => none

def ruleSettings? (value : Toml.Value) : Option RuleSettings := do
  let entries ← value.asTable?
  let enabled ← fieldOr none (fun v => v.asBoolean?.map some) (Toml.Value.get? entries "enabled")
  return { enabled, options := entries.filter (·.1 != "enabled") }

def rules? (value : Toml.Value) : Option (List (String × RuleSettings)) := do
  (← value.asTable?).mapM fun (name, settings) => do return (name, ← ruleSettings? settings)

def ofEntries? (entries : List (String × Toml.Value)) : Option Config := do
  return {
    selection := ← fieldOr {} selection? (Toml.Value.get? entries "selector")
    parallelism := ← fieldOr none parallelism? (Toml.Value.get? entries "validator")
    rules := ← fieldOr [] rules? (Toml.Value.get? entries "rules") }

def parse? (text : String) : Option Config := (Toml.parse text).bind ofEntries?

def load (disk : Disk) (path : Path) : Except ConfigError Config :=
  match disk.readText path with
  | .error cause => .error (.unreadable path cause)
  | .ok text =>
    match parse? text with
    | some config => .ok config
    | none => .error .malformed

end Config
end HouseStyle
