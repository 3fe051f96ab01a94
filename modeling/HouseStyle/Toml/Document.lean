import HouseStyle.Toml.Lexeme
import HouseStyle.Toml.Table

/-! Values and whole documents. -/

set_option autoImplicit false
namespace HouseStyle.Toml

/-! Values -/

def wordValue (word : String) (value : Value) (text : Chars) : Option (Value × Chars) :=
  if word.toList.isPrefixOf text then some (value, text.drop word.length) else none

def enter (path : List String) (value : Value) (t : Table) : Option Table :=
  match path.getLast? with
  | some key => t.insert path.dropLast key value
  | none => none

mutual

/-- A value, where `depth` arrays and tables may still be nested; the count bounds the steps taken. -/
def value (depth : Nat) : Nat → Chars → Option (Value × Chars)
  | 0, _ => none
  | steps + 1, text =>
    match text with
    | '"' :: _ => (string text).map fun (found, rest) => (.string found, rest)
    | '\'' :: _ => (string text).map fun (found, rest) => (.string found, rest)
    | '[' :: rest => if depth ≤ 1 then none else arrayRest (depth - 1) steps rest []
    | '\x7b' :: rest =>
      if depth ≤ 1 then none
      else
        match skipBlanks rest with
        | '\x7d' :: after => some (.table [], after)
        | _ => tableRest (depth - 1) steps rest .empty
    | 't' :: _ => wordValue "true" (.boolean true) text
    | 'f' :: _ => wordValue "false" (.boolean false) text
    | _ => numeral text

def arrayRest (depth : Nat) : Nat → Chars → List Value → Option (Value × Chars)
  | 0, _, _ => none
  | steps + 1, text, items =>
    let text := skipLines (text.length + 1) text
    match text with
    | ']' :: after => some (.array items, after)
    | _ =>
      match value depth steps text with
      | none => none
      | some (item, rest) =>
        match skipLines (rest.length + 1) rest with
        -- a comma may stand after the last item
        | ',' :: rest => arrayRest depth steps rest (items ++ [item])
        | ']' :: after => some (.array (items ++ [item]), after)
        | _ => none

def tableRest (depth : Nat) : Nat → Chars → Table → Option (Value × Chars)
  | 0, _, _ => none
  | steps + 1, text, table =>
    match key text with
    | some (path, '=' :: rest) =>
      match value depth steps (skipBlanks rest) with
      | none => none
      | some (found, rest) =>
        match enter path found table with
        | none => none
        | some table =>
          match skipBlanks rest with
          -- another entry must follow a comma
          | ',' :: rest => tableRest depth steps rest table
          | '\x7d' :: after => some (.table table.entries, after)
          | _ => none
    | _ => none

end

/-! Documents -/

/-- A document so far: its tables, and the path of the header that keys now go under. -/
structure Draft where
  root : Table
  header : List String

def openHeader (doubled : Bool) (path : List String) (draft : Draft) : Option Draft := do
  let last ← path.getLast?
  let make := if doubled then Table.openNext last else Table.openTable last
  return ⟨← draft.root.update make path.dropLast, path⟩

def header (text : Chars) (draft : Draft) : Option (Draft × Chars) := do
  let doubled := text.head? == some '['
  let (path, rest) ← key (if doubled then text.drop 1 else text)
  let rest ← mark ']' rest
  let rest ← if doubled then mark ']' rest else some rest
  return (← openHeader doubled path draft, ← afterLine? rest)

def entry (text : Chars) (draft : Draft) : Option (Draft × Chars) := do
  let (path, rest) ← key text
  let rest ← mark '=' rest
  let (found, rest) ← value depthLimit (2 * rest.length + 2) (skipBlanks rest)
  let root ← draft.root.update (enter path found) draft.header
  return ({ draft with root }, ← afterLine? rest)

def lines : Nat → Chars → Draft → Option Draft
  | 0, _, _ => none
  | fuel + 1, text, draft =>
    match skipBlanks text with
    | [] => some draft
    | '#' :: rest =>
      match afterLine? ('#' :: rest) with
      | some after => lines fuel after draft
      | none => none
    | '[' :: rest =>
      match header rest draft with
      | some (draft, after) => lines fuel after draft
      | none => none
    | other =>
      match afterNewline? other with
      | some after => lines fuel after draft
      | none =>
        match entry other draft with
        | some (draft, after) => lines fuel after draft
        | none => none

def skipByteOrder : Chars → Chars
  | c :: rest => if c.toNat == 0xFEFF then rest else c :: rest
  | [] => []

def parse (text : String) : Option (List (String × Value)) :=
  let chars := skipByteOrder text.toList
  (lines (chars.length + 1) chars ⟨.empty, []⟩).map (·.root.entries)

end HouseStyle.Toml
