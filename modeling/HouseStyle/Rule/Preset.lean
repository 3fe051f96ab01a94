import HouseStyle.Config
import HouseStyle.Rule.ControllerReturn
import HouseStyle.Rule.FileNaming
import HouseStyle.Rule.InterfaceNaming
import HouseStyle.TypeScript.Program

/-! The rules of the house, in the order in which they are applied. -/

set_option autoImplicit false
namespace HouseStyle.Rule

def exemptions (config : Config) : List String :=
  ((config.rule? FileNaming.tag.name).bind (·.strings? "exemptions")).getD FileNaming.defaultExemptions

def preset (config : Config) : List Rule :=
  [FileNaming.rule (exemptions config), InterfaceNaming.rule TypeScript.parseFile,
    ControllerReturn.rule TypeScript.parseFile]

end HouseStyle.Rule
