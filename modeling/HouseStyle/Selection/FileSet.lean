import HouseStyle.Path.Basic

/-! Files to be checked: normal forms of paths, in the order in which they were first put in. -/

set_option autoImplicit false
namespace HouseStyle

/-- Files, and the directory that relative ones are read from. -/
structure FileSet where
  root : Option Path
  files : List Path
  deriving DecidableEq, Repr

namespace FileSet

def empty : FileSet := ⟨none, []⟩

def rooted (root : Path) : FileSet := ⟨some root, []⟩

def isNew (s : FileSet) (path : Path) : Bool := !s.files.contains path.normalize

def insert (s : FileSet) (path : Path) : FileSet :=
  if s.isNew path then { s with files := s.files ++ [path.normalize] } else s

def insertAll (s : FileSet) (paths : List Path) : FileSet := paths.foldl insert s

def ofList (paths : List Path) : FileSet := empty.insertAll paths

def resolve (s : FileSet) (path : Path) : Path :=
  match s.root with
  | some root => if path.isAbsolute then path else root.join path
  | none => path

def size (s : FileSet) : Nat := s.files.length

def isEmpty (s : FileSet) : Bool := s.files.isEmpty

end FileSet
end HouseStyle
