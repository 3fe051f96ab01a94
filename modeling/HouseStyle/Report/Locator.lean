import HouseStyle.Finding

/-! How the place of a finding is written: plainly, or as a link that a terminal can follow. -/

set_option autoImplicit false
namespace HouseStyle

inductive Locator where
  | plain
  /-- Links to files, relative ones below the base. -/
  | link (base : Path)
  deriving DecidableEq, Repr

namespace Locator

def escape : String := "\x1b"

def target (base : Path) (f : Finding) : String :=
  "file://" ++ (base.join f.file).display ++
    match f.line with
    | some line => ":" ++ toString line
    | none => ""

def linked (address text : String) : String :=
  escape ++ "]8;;" ++ address ++ escape ++ "\\" ++ escape ++ "[34m" ++ escape ++ "[4m" ++ text ++
    escape ++ "[0m" ++ escape ++ "]8;;" ++ escape ++ "\\"

def render (locator : Locator) (f : Finding) : String :=
  match locator with
  | plain => f.locator
  | link base => linked (target base f) f.locator

end Locator
end HouseStyle
