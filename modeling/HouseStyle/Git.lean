import HouseStyle.Disk
import HouseStyle.Text.Blank

/-!
Questions to version control. The program is a function from arguments to what a run of it yields; every
run is noted, so that one can say which were made and in which order.
-/

set_option autoImplicit false
namespace HouseStyle

structure Exit where
  code : Nat
  output : Text.Bytes
  errors : Text.Bytes

abbrev Arguments := List String

abbrev Program := Arguments → Except IoError Exit

inductive GitError where
  | spawn (command : String) (cause : IoError)
  | failed (command : String) (complaint : String)
  deriving DecidableEq, Repr

def GitError.message : GitError → String
  | .spawn command cause => "failed to run `" ++ command ++ "`: " ++ cause.message
  | .failed command complaint => "`" ++ command ++ "` failed: " ++ complaint

/-- A computation that may run programs, with the arguments of the runs so far. -/
abbrev Traced := StateM (List Arguments)

structure ChangeSource where
  isRepository : Traced Bool
  staged : Traced (Except GitError (List Path))
  unstaged : Traced (Except GitError (List Path))
  changedSince : String → Traced (Except GitError (List Path))

namespace Git

/-- The program as started in a directory of the disk; without one there is nothing to start. -/
def inDirectory (disk : Disk) (directory : Path) (program : Option Program) : Program := fun arguments =>
  match disk.open? directory with
  | .error e => .error e
  | .ok entry =>
    if !entry.isDirectory then .error .notDirectory
    else
      match program with
      | some program => program arguments
      | none => .error .notFound

def commandLine (arguments : Arguments) : String :=
  " ".intercalate ("git" :: arguments)

def run (program : Program) (arguments : Arguments) : Traced (Except GitError String) := do
  match program arguments with
  | .error cause => return .error (.spawn (commandLine arguments) cause)
  | .ok exit =>
    modify (· ++ [arguments])
    if exit.code == 0 then return .ok (Text.decodeLossy exit.output)
    else
      let complaint := Text.trim (Text.decodeLossy exit.errors).toList
      return .error (.failed (commandLine arguments) (String.ofList complaint))

def names (output : String) : List Path :=
  (Text.filledLines output.toList).map fun line => Path.ofText (String.ofList line)

def isRepository (program : Program) : Traced Bool := do
  match ← run program ["rev-parse", "--git-dir"] with
  | .ok _ => return true
  | .error _ => return false

def nameOptions : Arguments := ["--name-only", "--relative", "--diff-filter=AM"]

def changed (program : Program) (arguments : Arguments) : Traced (Except GitError (List Path)) := do
  match ← run program ("diff" :: arguments ++ nameOptions) with
  | .ok output => return .ok (names output)
  | .error e => return .error e

def staged (program : Program) : Traced (Except GitError (List Path)) :=
  changed program ["--staged"]

def unstaged (program : Program) : Traced (Except GitError (List Path)) :=
  changed program []

/-- Files added or modified since a revision; what looks like an option is no revision. -/
def changedSince (program : Program) (base : String) : Traced (Except GitError (List Path)) :=
  if base.toList.head? == some '-' then
    return .error (.failed ("git diff " ++ base) "revision must not start with '-'")
  else changed program [base]

def source (program : Program) : ChangeSource where
  isRepository := isRepository program
  staged := staged program
  unstaged := unstaged program
  changedSince := changedSince program

end Git
end HouseStyle
