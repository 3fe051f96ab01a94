import HouseStyle.Json.Basic

/-!
Reading JSON text. Each reader takes the text and gives what it read and the rest, or nothing if the text
does not go on as it must.
-/

set_option autoImplicit false
namespace HouseStyle.Json

def isBlank (c : Char) : Bool := c == ' ' || c == '\n' || c == '\t' || c == '\r'

def skipBlanks (text : List Char) : List Char := text.dropWhile isBlank

/-! Strings -/

/-- A piece of a string: a character as it stands or is escaped, or a sixteen-bit unit. -/
inductive Piece where
  | char (c : Char)
  | unit (value : Nat)

def hexValue? (c : Char) : Option Nat :=
  if '0' ≤ c && c ≤ '9' then some (c.toNat - 48)
  else if 'a' ≤ c && c ≤ 'f' then some (c.toNat - 87)
  else if 'A' ≤ c && c ≤ 'F' then some (c.toNat - 55)
  else none

def unitOf? (a b c d : Char) : Option Nat := do
  return (← hexValue? a) * 4096 + (← hexValue? b) * 256 + (← hexValue? c) * 16 + (← hexValue? d)

def escaped? (c : Char) : Option Char :=
  match c with
  | '"' => some '"'
  | '\\' => some '\\'
  | '/' => some '/'
  | 'b' => some '\x08'
  | 'f' => some '\x0c'
  | 'n' => some '\n'
  | 'r' => some '\r'
  | 't' => some '\t'
  | _ => none

def pieces : List Char → Option (List Piece × List Char)
  | [] => none
  | '"' :: rest => some ([], rest)
  | '\\' :: 'u' :: a :: b :: c :: d :: rest => do
    let unit ← unitOf? a b c d
    let (more, after) ← pieces rest
    return (.unit unit :: more, after)
  | '\\' :: c :: rest => do
    let c ← escaped? c
    let (more, after) ← pieces rest
    return (.char c :: more, after)
  | c :: rest =>
    if c.toNat < 0x20 then none
    else do
      let (more, after) ← pieces rest
      return (.char c :: more, after)

def isLeading (unit : Nat) : Bool := 0xD800 ≤ unit && unit < 0xDC00

def isTrailing (unit : Nat) : Bool := 0xDC00 ≤ unit && unit < 0xE000

/-- The text the pieces spell; a unit that is half of a pair needs its other half next to it. -/
def spelled : List Piece → Option (List Char)
  | [] => some []
  | .char c :: rest => (spelled rest).map (c :: ·)
  | .unit high :: .unit low :: rest =>
    if isLeading high then
      if isTrailing low then
        (spelled rest).map (Char.ofNat (0x10000 + (high - 0xD800) * 0x400 + (low - 0xDC00)) :: ·)
      else none
    else if isTrailing high then none
    else (spelled (.unit low :: rest)).map (Char.ofNat high :: ·)
  | .unit unit :: rest =>
    if isLeading unit || isTrailing unit then none else (spelled rest).map (Char.ofNat unit :: ·)

def stringRest (text : List Char) : Option (Option String × List Char) :=
  (pieces text).map fun (found, rest) => ((spelled found).map String.ofList, rest)

/-! Numbers -/

def isDigit (c : Char) : Bool := '0' ≤ c && c ≤ '9'

def someDigits (text : List Char) : Option (List Char × List Char) :=
  if text.head?.any isDigit then some (text.takeWhile isDigit, text.dropWhile isDigit) else none

def whole (text : List Char) : Option (List Char × List Char) :=
  (someDigits text).filter fun (found, _) => found.head? != some '0' || found.length == 1

def fraction : List Char → Option (List Char × List Char)
  | '.' :: rest => (someDigits rest).map fun (found, after) => ('.' :: found, after)
  | text => some ([], text)

def sign : List Char → List Char × List Char
  | '+' :: rest => (['+'], rest)
  | '-' :: rest => (['-'], rest)
  | text => ([], text)

def exponent : List Char → Option (List Char × List Char)
  | [] => some ([], [])
  | c :: rest =>
    if c == 'e' || c == 'E' then
      let (signs, rest) := sign rest
      (someDigits rest).map fun (found, after) => (c :: signs ++ found, after)
    else some ([], c :: rest)

def valueOf (digits : List Char) : Nat :=
  digits.foldl (fun value c => value * 10 + (c.toNat - 48)) 0

def numeral (text : List Char) : Option (Json × List Char) := do
  let (minus, rest) := match text with
    | '-' :: rest => (['-'], rest)
    | _ => ([], text)
  let (digits, rest) ← whole rest
  let (after, rest) ← fraction rest
  let (power, rest) ← exponent rest
  if minus.isEmpty && after.isEmpty && power.isEmpty then return (.natural (valueOf digits), rest)
  else return (.number (String.ofList (minus ++ digits ++ after ++ power)), rest)

/-! Values -/

def wordRest (word : String) (value : Json) (text : List Char) : Option (Json × List Char) :=
  if word.toList.isPrefixOf text then some (value, text.drop word.length) else none

mutual

/-- A value after any blanks. The count bounds the steps taken. -/
def value : Nat → List Char → Option (Json × List Char)
  | 0, _ => none
  | steps + 1, text =>
    match skipBlanks text with
    | [] => none
    | '"' :: rest => (stringRest rest).map fun (found, after) => (.string found, after)
    | '[' :: rest =>
      match skipBlanks rest with
      | ']' :: after => some (.array [], after)
      | _ => (items steps rest).map fun (found, after) => (.array found, after)
    | '\x7b' :: rest =>
      match skipBlanks rest with
      | '\x7d' :: after => some (.object [], after)
      | _ => (fields steps rest).map fun (found, after) => (.object found, after)
    | 'n' :: rest => wordRest "ull" .null rest
    | 't' :: rest => wordRest "rue" (.bool true) rest
    | 'f' :: rest => wordRest "alse" (.bool false) rest
    | other => numeral other

def items : Nat → List Char → Option (List Json × List Char)
  | 0, _ => none
  | steps + 1, text =>
    match value steps text with
    | none => none
    | some (item, rest) =>
      match skipBlanks rest with
      | ']' :: after => some ([item], after)
      | ',' :: rest => (items steps rest).map fun (more, after) => (item :: more, after)
      | _ => none

def fields : Nat → List Char → Option (List (Option String × Json) × List Char)
  | 0, _ => none
  | steps + 1, text =>
    match skipBlanks text with
    | '"' :: rest =>
      match stringRest rest with
      | none => none
      | some (key, rest) =>
        match skipBlanks rest with
        | ':' :: rest =>
          match value steps rest with
          | none => none
          | some (found, rest) =>
            match skipBlanks rest with
            | '\x7d' :: after => some ([(key, found)], after)
            | ',' :: rest => (fields steps rest).map fun (more, after) => ((key, found) :: more, after)
            | _ => none
        | _ => none
    | _ => none

end

def parse (text : String) : Option Json := do
  let chars := text.toList
  let (found, rest) ← value (2 * chars.length + 2) chars
  if (skipBlanks rest).isEmpty then return found else none

end HouseStyle.Json
