import HouseStyle.Report.Locator
import HouseStyle.Text.Split

/-! What the environment tells about the terminal. -/

set_option autoImplicit false
namespace HouseStyle

abbrev Environment := String → Option String

namespace Terminal

def linkingPrograms : List String := ["vscode", "Hyper", "WezTerm", "Alacritty"]

def mentions (text part : String) : Bool :=
  Text.occursIn part.toList text.toList

def hasLinks (environment : Environment) : Bool :=
  let program := (environment "TERM_PROGRAM").getD ""
  let terminal := (environment "TERM").getD ""
  linkingPrograms.contains program || mentions program "iTerm" || (environment "WT_SESSION").isSome ||
    (environment "TERMINAL_EMULATOR").getD "" == "JetBrains-JediTerm" ||
    mentions terminal "xterm" || mentions terminal "screen" ||
    environment "COLORTERM" == some "truecolor"

def locator (environment : Environment) (base : Path) : Locator :=
  if hasLinks environment then .link base else .plain

def name (environment : Environment) : String :=
  ((environment "TERM_PROGRAM").orElse fun _ => environment "TERM").getD "unknown terminal"

end Terminal
end HouseStyle
