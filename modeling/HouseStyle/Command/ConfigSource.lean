import HouseStyle.Config
import HouseStyle.Terminal

/-! Where the configuration comes from: the first place that has one decides, and no other is looked at. -/

set_option autoImplicit false
namespace HouseStyle.Command

inductive ConfigSource where
  | given (path : Path)
  | project (path : Path)
  | home (path : Path)
  | default
  deriving DecidableEq, Repr

namespace ConfigSource

def path? : ConfigSource → Option Path
  | given path => some path
  | project path => some path
  | home path => some path
  | default => none

def projectNames : List String := ["guidelines.toml", ".guidelines.toml"]

/-- Where the settings of a user lie: in a directory of their choice, else below their home. -/
def userDirectory? (environment : Environment) (home : Option Path) : Option Path :=
  match environment "GUIDELINE_LINT_CONFIG_DIR" with
  | some directory => some directory
  | none => home.map (·.join ".guideline-lint")

def resolve (disk : Disk) (environment : Environment) (home? : Option Path) (root : Path)
    (given? : Option Path) : ConfigSource :=
  match given? with
  | some path => given path
  | none =>
    match (projectNames.map fun name => root.join (.ofText name)).find? disk.isFile with
    | some path => project path
    | none =>
      match ((userDirectory? environment home?).map (·.join "config.toml")).filter disk.isFile with
      | some path => home path
      | none => default

def load (disk : Disk) (source : ConfigSource) : Except ConfigError Config :=
  match source.path? with
  | some path => Config.load disk path
  | none => .ok {}

end ConfigSource
end HouseStyle.Command
