import HouseStyle.Json.Basic

/-! JSON values as text: on one line without blanks, or one item a line, indented by two blanks a level. -/

set_option autoImplicit false
namespace HouseStyle.Json

def hexDigit (n : Nat) : Char :=
  Char.ofNat (if n < 10 then 48 + n else 87 + n)

def escape (c : Char) : List Char :=
  if c == '"' then ['\\', '"']
  else if c == '\\' then ['\\', '\\']
  else if c == '\x08' then ['\\', 'b']
  else if c == '\x0c' then ['\\', 'f']
  else if c == '\n' then ['\\', 'n']
  else if c == '\r' then ['\\', 'r']
  else if c == '\t' then ['\\', 't']
  else if c.toNat < 0x20 then
    ['\\', 'u', '0', '0', hexDigit (c.toNat / 16), hexDigit (c.toNat % 16)]
  else [c]

def quoted (text : List Char) : List Char :=
  '"' :: text.flatMap escape ++ ['"']

def digits (n : Nat) : List Char := (toString n).toList

inductive Layout where
  | compact
  | pretty
  deriving DecidableEq, Repr

/-- What stands before an item at a depth. -/
def Layout.lead (layout : Layout) (depth : Nat) : List Char :=
  match layout with
  | .compact => []
  | .pretty => '\n' :: List.replicate (2 * depth) ' '

def Layout.colon (layout : Layout) : List Char :=
  match layout with
  | .compact => [':']
  | .pretty => [':', ' ']

mutual

def chars (layout : Layout) (depth : Nat) : Json → List Char
  | null => "null".toList
  | bool true => "true".toList
  | bool false => "false".toList
  | natural value => digits value
  | number spelling => spelling.toList
  | string text => quoted (text.getD "").toList
  | array [] => ['[', ']']
  | array (item :: rest) =>
    '[' :: layout.lead (depth + 1) ++ chars layout (depth + 1) item ++
      itemChars layout (depth + 1) rest ++ layout.lead depth ++ [']']
  | object [] => ['\x7b', '\x7d']
  | object ((key, value) :: rest) =>
    '\x7b' :: layout.lead (depth + 1) ++ quoted (key.getD "").toList ++ layout.colon ++
      chars layout (depth + 1) value ++ fieldChars layout (depth + 1) rest ++ layout.lead depth ++ ['\x7d']

def itemChars (layout : Layout) (depth : Nat) : List Json → List Char
  | [] => []
  | item :: rest => ',' :: layout.lead depth ++ chars layout depth item ++ itemChars layout depth rest

def fieldChars (layout : Layout) (depth : Nat) : List (Option String × Json) → List Char
  | [] => []
  | (key, value) :: rest =>
    ',' :: layout.lead depth ++ quoted (key.getD "").toList ++ layout.colon ++ chars layout depth value ++
      fieldChars layout depth rest

end

def print (layout : Layout) (value : Json) : String :=
  String.ofList (chars layout 0 value)

end HouseStyle.Json
