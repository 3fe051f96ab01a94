import HouseStyle.Decimal.Double
import HouseStyle.Toml.Datetime

/-! The values a TOML document holds. -/

set_option autoImplicit false
namespace HouseStyle.Toml

inductive Value where
  | string (text : String)
  | integer (value : Int)
  | float (value : Double)
  | boolean (value : Bool)
  | datetime (value : Datetime)
  | array (items : List Value)
  | table (entries : List (String × Value))
  deriving Repr

namespace Value

def get? (entries : List (String × Value)) (key : String) : Option Value :=
  (entries.find? (·.1 == key)).map (·.2)

def asString? : Value → Option String
  | string text => some text
  | _ => none

def asBoolean? : Value → Option Bool
  | boolean value => some value
  | _ => none

def asArray? : Value → Option (List Value)
  | array items => some items
  | _ => none

def asTable? : Value → Option (List (String × Value))
  | table entries => some entries
  | _ => none

def asNatural? : Value → Option Nat
  | integer (.ofNat value) => some value
  | _ => none

def asStrings? (value : Value) : Option (List String) := do
  (← value.asArray?).mapM asString?

end Value
end HouseStyle.Toml
