import HouseStyle.Config
import HouseStyle.Report.Basic
import HouseStyle.Rule.Basic
import HouseStyle.Selection.FileSet

/-!
Applying rules to files. Every rule sees every file; one that cannot be applied is reported as a warning in
its place, and the others go on. With more than one worker the files are checked side by side, and what is
found in each goes to the place of its file.
-/

set_option autoImplicit false
namespace HouseStyle

/-- Workers for a number of jobs: they cannot be started, or the jobs end in some order, each once. -/
inductive Pool (jobs : Nat) where
  | unavailable
  | ending (order : List Nat) (complete : order.Perm (List.range jobs))

def Pool.inTurn (jobs : Nat) : Pool jobs := .ending (List.range jobs) (.refl _)

structure Validator where
  rules : List Rule
  parallelism : Nat

namespace Validator

def ofConfig (config : Config) (rules : List Rule) : Validator :=
  -- a parallelism of zero counts as one
  { rules := rules.filter fun rule => config.isEnabled rule.name
    parallelism := max (config.parallelism.getD 1) 1 }

def ruleNames (v : Validator) : List String := v.rules.map Rule.name

def fault (rule : Rule) (subject : Subject) (reason : String) : Finding :=
  { code := rule.code
    rule := rule.name
    severity := .warning
    file := subject.path
    message :=
      "Rule '" ++ rule.name ++ "' could not be applied to " ++ subject.path.display ++ ": " ++ reason }

def ruleFindings (rule : Rule) (subject : Subject) : Verdict → List Finding
  | .findings found => found
  | .failed error => [fault rule subject error.message]
  | .brokenOff reason => [fault rule subject (reason.getD "rule panicked")]

def check (v : Validator) (read : Reader) (subject : Subject) : List Finding :=
  v.rules.flatMap fun rule => ruleFindings rule subject (rule.check read subject)

def checkFile (v : Validator) (read : Reader) (files : FileSet) (file : Path) : List Finding :=
  v.check read ⟨file, files.resolve file⟩

/-- The results of jobs that end in the given order: each is put at the place of its item. -/
def collect {α β : Type} (job : α → β) (items : List α) (order : List Nat) : List β :=
  (order.foldl (fun places index => places.set index (items[index]?.map job))
    (items.map fun _ => none)).filterMap id

/-- The findings of each file; workers that cannot be started leave the files to be checked one by one. -/
def perFile (v : Validator) (read : Reader) (files : FileSet) : Pool files.size → List (List Finding)
  | .unavailable => files.files.map (v.checkFile read files)
  | .ending order _ =>
    if 1 < v.parallelism && 1 < files.size then collect (v.checkFile read files) files.files order
    else files.files.map (v.checkFile read files)

def validate (v : Validator) (read : Reader) (files : FileSet)
    (pool : Pool files.size := .inTurn files.size) : Report :=
  (files.files.zip (v.perFile read files pool)).foldl
    (fun report (file, found) => report.record file found) .empty

end Validator
end HouseStyle
