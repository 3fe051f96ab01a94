import HouseStyle.Path.Basic

/-!
A file tree and how paths find their way through it. A path is followed segment by segment from the root or
from the working directory: a name is looked up, `..` goes up, an empty segment or `.` stays but wants a
directory to stay in, and a link is replaced by the segments of its target. Only so many links are followed.
-/

set_option autoImplicit false
namespace HouseStyle

inductive IoError where
  | notFound
  | notDirectory
  | isDirectory
  | tooManyLinks
  | invalidText
  deriving DecidableEq, Repr

def IoError.message : IoError → String
  | .notFound => "No such file or directory (os error 2)"
  | .notDirectory => "Not a directory (os error 20)"
  | .isDirectory => "Is a directory (os error 21)"
  | .tooManyLinks => "Too many levels of symbolic links (os error 40)"
  | .invalidText => "stream did not contain valid UTF-8"

inductive Entry where
  | file (content : Text.Bytes)
  | directory (entries : List (Path.Segment × Entry))
  | link (target : Path)
  deriving Repr

namespace Entry

def isDirectory : Entry → Bool
  | directory _ => true
  | _ => false

def isFile : Entry → Bool
  | file _ => true
  | _ => false

def entries : Entry → List (Path.Segment × Entry)
  | directory entries => entries
  | _ => []

def get? (e : Entry) (name : Path.Segment) : Option Entry :=
  (e.entries.find? (·.1 == name)).map (·.2)

end Entry

/-- The names that lead to an entry from the root, without links or dots. -/
abbrev Location := List Path.Segment

structure Disk where
  root : Entry
  workingDirectory : Location

namespace Disk

def lookup (disk : Disk) (location : Location) : Option Entry :=
  location.foldl (fun found name => found.bind (·.get? name)) (some disk.root)

def linkLimit : Nat := 40

/-- Follows the segments from a location; `jump` goes on from where a link leads. -/
def followWith (disk : Disk) (jump : Location → List Path.Segment → Except IoError Location) :
    Location → List Path.Segment → Except IoError Location
  | location, [] => .ok location
  | location, segment :: rest =>
    match disk.lookup location with
    | none => .error .notFound
    | some entry =>
      -- also an idle segment needs a directory to stand in
      if !entry.isDirectory then .error .notDirectory
      else if Path.isIdle segment then followWith disk jump location rest
      else if segment == [Path.dot, Path.dot] then followWith disk jump location.dropLast rest
      else
        match entry.get? segment with
        | none => .error .notFound
        | some (.link target) =>
          jump (if target.isAbsolute then [] else location) (target.segments ++ rest)
        | some _ => followWith disk jump (location ++ [segment]) rest

def follow (disk : Disk) : Nat → Location → List Path.Segment → Except IoError Location
  | 0 => followWith disk fun _ _ => .error .tooManyLinks
  | links + 1 => followWith disk (follow disk links)

def locate (disk : Disk) (path : Path) : Except IoError Location :=
  if path.bytes.isEmpty then .error .notFound
  else disk.follow linkLimit (if path.isAbsolute then [] else disk.workingDirectory) path.segments

def open? (disk : Disk) (path : Path) : Except IoError Entry := do
  match disk.lookup (← disk.locate path) with
  | some entry => return entry
  | none => throw .notFound

def isFile (disk : Disk) (path : Path) : Bool :=
  match disk.open? path with
  | .ok entry => entry.isFile
  | .error _ => false

def isDirectory (disk : Disk) (path : Path) : Bool :=
  match disk.open? path with
  | .ok entry => entry.isDirectory
  | .error _ => false

def readText (disk : Disk) (path : Path) : Except IoError String := do
  match ← disk.open? path with
  | .file content =>
    match Text.decode? content with
    | some text => return text
    | none => throw .invalidText
  | _ => throw .isDirectory

end Disk
end HouseStyle
