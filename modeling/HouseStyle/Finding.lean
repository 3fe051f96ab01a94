import HouseStyle.Path.Basic
import HouseStyle.Text.Position

/-! What a rule has to say about a file, and how it is written on one line. -/

set_option autoImplicit false
namespace HouseStyle

inductive Severity where
  | warning
  | error
  deriving DecidableEq, Repr

def Severity.word : Severity → String
  | .warning => "warning"
  | .error => "error"

def Severity.ofWord? (word : String) : Option Severity :=
  if word == "warning" then some .warning
  else if word == "error" then some .error
  else none

theorem Severity.ofWord?_word (severity : Severity) : ofWord? severity.word = some severity := by
  cases severity <;> decide

structure Finding where
  code : String
  rule : String
  file : Path
  message : String
  line : Option Nat := none
  column : Option Nat := none
  severity : Severity
  deriving DecidableEq, Repr

namespace Finding

def isError (f : Finding) : Bool := f.severity == .error

def atLine (f : Finding) (line : Nat) : Finding := { f with line := some line }

def atPosition (f : Finding) (position : Text.Position) : Finding :=
  { f with line := some position.line, column := some position.column }

/-- The file alone, or the file with line and column; a missing column is written as zero. -/
def locator (f : Finding) : String :=
  match f.line with
  | some line => f.file.display ++ ":" ++ toString line ++ ":" ++ toString (f.column.getD 0)
  | none => f.file.display

def display (f : Finding) : String :=
  f.locator ++ ": " ++ f.severity.word ++ " [" ++ f.code ++ "] " ++ f.message

end Finding
end HouseStyle
