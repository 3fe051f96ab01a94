import HouseStyle.Git
import HouseStyle.Selection.FileSet
import HouseStyle.Selection.Policy

/-!
Choosing files: the ones that are named, the ones that a scan of the project finds, or the ones that version
control reports as changed. All of them pass the policy.
-/

set_option autoImplicit false
namespace HouseStyle

inductive Selection where
  | named (paths : List Path)
  | scan
  | changes (base : Option String)
  deriving DecidableEq, Repr

inductive SelectionWarning where
  | noRepository
  | noComparison (base : String) (cause : GitError)
  deriving DecidableEq, Repr

def SelectionWarning.message : SelectionWarning → String
  | .noRepository =>
    "Git is not available or this is not a git repository; no changed files to check."
  | .noComparison base cause =>
    "Cannot compare against '" ++ base ++ "' (" ++ cause.message ++ "); using local changes instead."

structure Chosen where
  files : FileSet
  warnings : List SelectionWarning
  deriving DecidableEq, Repr

structure Selector where
  root : Path
  scanRoots : List Path
  policy : Policy

namespace Selector

def ofSettings (root : Path) (settings : SelectionSettings) : Except PolicyError Selector := do
  return ⟨root, settings.scanRoots, ← Policy.ofSettings settings⟩

def resolve (s : Selector) (path : Path) : Path :=
  if path.isAbsolute then path else s.root.join path

def relative (s : Selector) (path : Path) : Path := Path.relativeTo s.root path

/-! Named files -/

def takes (s : Selector) (disk : Disk) (path : Path) : Bool :=
  disk.isFile (s.resolve path) && s.policy.accepts (s.relative (s.resolve path))

def named (s : Selector) (disk : Disk) (paths : List Path) : FileSet :=
  (FileSet.rooted s.root).insertAll (paths.filter (s.takes disk))

/-! Scans -/

/-- By the bytes of their names. -/
def inOrder {α : Type} (entries : List (Path.Segment × α)) : List (Path.Segment × α) :=
  entries.mergeSort fun a b => a.1 ≤ b.1

mutual

/-- The paths of the files in a directory at a path, without those in directories the policy excludes;
links are passed over. -/
def filesBelow (policy : Policy) (path : Path) : Entry → List Path
  | .file _ => [path]
  | .link _ => []
  | .directory entries => (inOrder (filesOfEach policy path entries)).flatMap (·.2)

def filesOfEach (policy : Policy) (path : Path) : List (Path.Segment × Entry) → List (Path.Segment × List Path)
  | [] => []
  | (name, entry) :: rest =>
    let below :=
      if entry.isDirectory && policy.isExcludedDirectory ⟨name⟩ then []
      else filesBelow policy (path.join ⟨name⟩) entry
    (name, below) :: filesOfEach policy path rest

end

def found (s : Selector) (disk : Disk) (directory : Path) : List Path :=
  let start := s.resolve directory
  match disk.open? start with
  | .ok (.directory entries) =>
    ((filesBelow s.policy start (.directory entries)).map s.relative).filter s.policy.accepts
  | _ => []

/-- The files below all scan roots; if there are none, those below the project itself. -/
def scan (s : Selector) (disk : Disk) : FileSet :=
  let files := (FileSet.rooted s.root).insertAll (s.scanRoots.flatMap (s.found disk))
  if files.isEmpty then files.insertAll (s.found disk ".") else files

/-! Changes -/

def firsts (paths : List Path) : List Path :=
  paths.foldl (fun kept path => if kept.any (·.same path) then kept else kept ++ [path]) []

/-- Staged and then unstaged changes; a question that fails adds nothing. -/
def localChanges (source : ChangeSource) : Traced (List Path) := do
  let staged ← source.staged
  let unstaged ← source.unstaged
  return firsts (staged.toOption.getD [] ++ unstaged.toOption.getD [])

def changedFiles (source : ChangeSource) (base : Option String) :
    Traced (List Path × List SelectionWarning) := do
  match base with
  | none => return (← localChanges source, [])
  | some base =>
    match ← source.changedSince base with
    | .ok paths => return (paths, [])
    | .error cause => return (← localChanges source, [.noComparison base cause])

def changes (s : Selector) (source : ChangeSource) (base : Option String) : Traced Chosen := do
  if ← source.isRepository then
    let (paths, warnings) ← changedFiles source base
    return ⟨(FileSet.rooted s.root).insertAll (paths.filter s.policy.accepts), warnings⟩
  else return ⟨FileSet.rooted s.root, [.noRepository]⟩

/-! All three -/

def selectFrom (s : Selector) (disk : Disk) (source : ChangeSource) : Selection → Traced Chosen
  | .named paths => return ⟨s.named disk paths, []⟩
  | .scan => return ⟨s.scan disk, []⟩
  | .changes base => s.changes source base

def select (s : Selector) (disk : Disk) (program : Program) (selection : Selection) : Traced Chosen :=
  s.selectFrom disk (Git.source program) selection

end Selector
end HouseStyle
