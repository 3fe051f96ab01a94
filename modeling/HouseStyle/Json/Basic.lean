/-!
JSON values. A number keeps its spelling unless it is a natural number; a string whose escapes spell no
text is kept as `none`, so that a reader may pass over it where it does not matter.
-/

set_option autoImplicit false
namespace HouseStyle

inductive Json where
  | null
  | bool (value : Bool)
  | natural (value : Nat)
  | number (spelling : String)
  | string (text : Option String)
  | array (items : List Json)
  | object (fields : List (Option String × Json))
  deriving Repr

namespace Json

def text (value : String) : Json := string (some value)

def record (fields : List (Option (String × Json))) : Json :=
  object (fields.filterMap fun field => field.map fun (key, value) => (some key, value))

end Json
end HouseStyle
