import HouseStyle.Path.Basic
import HouseStyle.Path.Glob

/-! Which files are worth checking, by name alone. -/

set_option autoImplicit false
namespace HouseStyle

structure SelectionSettings where
  scanRoots : List Path := ["src", "lib", "app"]
  extension : String := "ts"
  excludedDirectories : List String := ["node_modules", "dist", "build", ".git"]
  testSuffixes : List String := [".spec.ts", ".test.ts"]
  excluded : List String := []
  projectMarker : Path := "package.json"
  deriving DecidableEq, Repr

structure PolicyError where
  pattern : String
  cause : Glob.PatternError
  deriving DecidableEq, Repr

def PolicyError.message (e : PolicyError) : String :=
  "Invalid exclude pattern `" ++ e.pattern ++ "`: " ++ e.cause.message

structure Policy where
  extension : String
  excludedDirectories : List String
  testSuffixes : List String
  excluded : List Glob.Pattern
  deriving DecidableEq, Repr

namespace Policy

def pattern (text : String) : Except PolicyError Glob.Pattern :=
  match Glob.parse text with
  | .ok pattern => .ok pattern
  | .error cause => .error ⟨text, cause⟩

/-- The policy of the settings; the first pattern that cannot be read is the error. -/
def ofSettings (settings : SelectionSettings) : Except PolicyError Policy := do
  let excluded ← settings.excluded.mapM pattern
  return {
    extension := String.ofList (settings.extension.toList.dropWhile (· == '.'))
    excludedDirectories := settings.excludedDirectories
    testSuffixes := settings.testSuffixes
    excluded }

def isExcludedName (policy : Policy) : Path.Component → Bool
  | .name segment => policy.excludedDirectories.contains (Text.decodeLossy segment)
  | _ => false

def isExcludedDirectory (policy : Policy) (directory : Path) : Bool :=
  directory.components.any policy.isExcludedName

def hasExtension (policy : Policy) (path : Path) : Bool :=
  path.extension?.map Text.decodeLossy == some policy.extension

def isTest (policy : Policy) (path : Path) : Bool :=
  policy.testSuffixes.any fun suffix => suffix.toList.isSuffixOf path.shownName.toList

def liesExcluded (policy : Policy) (path : Path) : Bool :=
  path.parents.any policy.isExcludedName

def isExcluded (policy : Policy) (path : Path) : Bool :=
  policy.excluded.any fun pattern => Glob.accepts pattern path.display.toList

def accepts (policy : Policy) (path : Path) : Bool :=
  policy.hasExtension path && !policy.isTest path && !policy.liesExcluded path && !policy.isExcluded path

end Policy
end HouseStyle
