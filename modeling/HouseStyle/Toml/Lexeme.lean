import HouseStyle.Toml.Value

/-!
The lexemes of TOML: blanks and comments, keys, strings, numbers and dates. Each reader splits the text into
what it read and the rest, or gives nothing.
-/

set_option autoImplicit false
namespace HouseStyle.Toml

abbrev Chars := List Char

def isBlank (c : Char) : Bool := c == ' ' || c == '\t'

def skipBlanks (text : Chars) : Chars := text.dropWhile isBlank

def isPrintable (c : Char) : Bool := c == '\t' || (0x20 ≤ c.toNat && c.toNat != 0x7F)

def afterNewline? : Chars → Option Chars
  | '\n' :: rest => some rest
  | '\r' :: '\n' :: rest => some rest
  | _ => none

def skipComment (text : Chars) : Chars :=
  match text with
  | '#' :: rest => rest.dropWhile isPrintable
  | _ => text

def afterLine? (text : Chars) : Option Chars :=
  match skipComment (skipBlanks text) with
  | [] => some []
  | rest => afterNewline? rest

/-- Blanks, ends of lines and comments; a comment must end with its line. -/
def skipLines : Nat → Chars → Chars
  | 0, text => text
  | fuel + 1, text =>
    match text with
    | '#' :: _ =>
      match afterNewline? (skipComment text) with
      | some rest => skipLines fuel rest
      | none => text
    | c :: rest =>
      if isBlank c then skipLines fuel rest
      else
        match afterNewline? text with
        | some after => skipLines fuel after
        | none => text
    | [] => []

/-! Strings -/

def hexValue? (c : Char) : Option Nat :=
  if '0' ≤ c && c ≤ '9' then some (c.toNat - 48)
  else if 'a' ≤ c && c ≤ 'f' then some (c.toNat - 87)
  else if 'A' ≤ c && c ≤ 'F' then some (c.toNat - 55)
  else none

def namedChar (count : Nat) (text : Chars) : Option (Char × Chars) := do
  let digits ← (text.take count).mapM hexValue?
  let code := digits.foldl (fun code digit => code * 16 + digit) 0
  if digits.length == count && code.isValidChar then return (Char.ofNat code, text.drop count) else none

def escaped : Chars → Option (Char × Chars)
  | 'b' :: rest => some ('\x08', rest)
  | 't' :: rest => some ('\t', rest)
  | 'n' :: rest => some ('\n', rest)
  | 'f' :: rest => some ('\x0c', rest)
  | 'r' :: rest => some ('\r', rest)
  | '"' :: rest => some ('"', rest)
  | '\\' :: rest => some ('\\', rest)
  | 'u' :: rest => namedChar 4 rest
  | 'U' :: rest => namedChar 8 rest
  | _ => none

def basicRest : Nat → Chars → Option (Chars × Chars)
  | 0, _ => none
  | _, [] => none
  | fuel + 1, c :: rest =>
    if c == '"' then some ([], rest)
    else if c == '\\' then do
      let (c, rest) ← escaped rest
      let (more, after) ← basicRest fuel rest
      return (c :: more, after)
    else if isPrintable c then do
      let (more, after) ← basicRest fuel rest
      return (c :: more, after)
    else none

def literalRest (text : Chars) : Option (Chars × Chars) :=
  match text.span fun c => c != '\'' && isPrintable c with
  | (inner, '\'' :: after) => some (inner, after)
  | _ => none

def skipBlankLines : Nat → Chars → Chars
  | 0, text => text
  | fuel + 1, text =>
    match text with
    | [] => []
    | c :: rest =>
      if isBlank c then skipBlankLines fuel rest
      else
        match afterNewline? text with
        | some after => skipBlankLines fuel after
        | none => text

/-- The text after a backslash that ends its line, and after the blank lines that follow. -/
def afterContinuation? (fuel : Nat) (text : Chars) : Option Chars :=
  (afterNewline? (skipBlanks text)).map (skipBlankLines fuel)

/-- The end of a string of several lines: three quotes, and up to two more that belong to the string. -/
def closing? (quote : Char) (text : Chars) : Option (Chars × Chars) :=
  let quotes := (text.takeWhile (· == quote)).length
  if quotes < 3 then none
  else
    let inner := min (quotes - 3) 2
    some (List.replicate inner quote, text.drop (inner + 3))

def linesRest (quote : Char) (escapes : Bool) : Nat → Chars → Option (Chars × Chars)
  | 0, _ => none
  | _, [] => none
  | fuel + 1, c :: rest =>
    match closing? quote (c :: rest) with
    | some found => some found
    | none =>
      match afterNewline? (c :: rest) with
      | some after => do
        let (more, after) ← linesRest quote escapes fuel after
        -- however the line ends in the text
        return ('\n' :: more, after)
      | none =>
        if escapes && c == '\\' then
          match afterContinuation? fuel rest with
          | some after => linesRest quote escapes fuel after
          | none => do
            let (c, rest) ← escaped rest
            let (more, after) ← linesRest quote escapes fuel rest
            return (c :: more, after)
        else if isPrintable c then do
          let (more, after) ← linesRest quote escapes fuel rest
          return (c :: more, after)
        else none

def afterFirstNewline (text : Chars) : Chars := (afterNewline? text).getD text

def plainString : Chars → Option (String × Chars)
  | '"' :: rest => (basicRest (rest.length + 1) rest).map fun (inner, after) => (String.ofList inner, after)
  | '\'' :: rest => (literalRest rest).map fun (inner, after) => (String.ofList inner, after)
  | _ => none

def string : Chars → Option (String × Chars)
  | '"' :: '"' :: '"' :: rest =>
    (linesRest '"' true (rest.length + 1) (afterFirstNewline rest)).map fun (inner, after) =>
      (String.ofList inner, after)
  | '\'' :: '\'' :: '\'' :: rest =>
    (linesRest '\'' false (rest.length + 1) (afterFirstNewline rest)).map fun (inner, after) =>
      (String.ofList inner, after)
  | text => plainString text

/-! Keys -/

def isDigit (c : Char) : Bool := '0' ≤ c && c ≤ '9'

def isBareChar (c : Char) : Bool :=
  ('a' ≤ c && c ≤ 'z') || ('A' ≤ c && c ≤ 'Z') || isDigit c || c == '-' || c == '_'

def simpleKey (text : Chars) : Option (String × Chars) :=
  match text.span isBareChar with
  | ([], _) => plainString text
  | (bare, rest) => some (String.ofList bare, rest)

def dottedKey : Nat → Chars → Option (List String × Chars)
  | 0, _ => none
  | fuel + 1, text => do
    let (key, rest) ← simpleKey (skipBlanks text)
    match skipBlanks rest with
    | '.' :: rest => do
      let (more, after) ← dottedKey fuel rest
      return (key :: more, after)
    | rest => return ([key], rest)

def depthLimit : Nat := 80

/-- A key of less than so many parts. -/
def key (text : Chars) : Option (List String × Chars) :=
  dottedKey (depthLimit - 1) text

/-! Numbers -/

def digits (isDigit : Char → Bool) : Chars → Chars × Chars
  | [] => ([], [])
  | '_' :: d :: rest =>
    if isDigit d then
      let (more, after) := digits isDigit rest
      (d :: more, after)
    else ([], '_' :: d :: rest)
  | c :: rest =>
    if isDigit c then
      let (more, after) := digits isDigit rest
      (c :: more, after)
    else ([], c :: rest)

def digits1 (isDigit : Char → Bool) (text : Chars) : Option (Chars × Chars) :=
  if text.head?.any isDigit then some (digits isDigit text) else none

def whole (text : Chars) : Option (Chars × Chars) :=
  match text with
  | '0' :: rest => some (['0'], rest)
  | _ => digits1 isDigit text

def signed : Chars → Bool × Chars
  | '+' :: rest => (false, rest)
  | '-' :: rest => (true, rest)
  | text => (false, text)

def valueIn (base : Nat) (digits : Chars) : Nat :=
  digits.foldl (fun value c => value * base + (hexValue? c).getD 0) 0

def inRange (value : Int) : Bool := -9223372036854775808 ≤ value && value ≤ 9223372036854775807

def basedInteger (base : Nat) (isDigit : Char → Bool) (text : Chars) : Option (Value × Chars) := do
  let (digits, rest) ← digits1 isDigit text
  let value := Int.ofNat (valueIn base digits)
  if inRange value then return (.integer value, rest) else none

def integer : Chars → Option (Value × Chars)
  | '0' :: 'x' :: rest => basedInteger 16 (fun c => (hexValue? c).isSome) rest
  | '0' :: 'o' :: rest => basedInteger 8 (fun c => '0' ≤ c && c ≤ '7') rest
  | '0' :: 'b' :: rest => basedInteger 2 (fun c => c == '0' || c == '1') rest
  | text => do
    let (negative, rest) := signed text
    let (digits, rest) ← whole rest
    let size := Int.ofNat (valueIn 10 digits)
    let value := if negative then -size else size
    if inRange value then return (.integer value, rest) else none

def fraction : Chars → Option (Chars × Chars)
  | '.' :: rest => digits1 isDigit rest
  | _ => none

def power : Chars → Option ((Bool × Chars) × Chars)
  | c :: rest =>
    if c == 'e' || c == 'E' then
      let (negative, rest) := signed rest
      (digits1 isDigit rest).map fun (digits, after) => ((negative, digits), after)
    else none
  | [] => none

/-- The float that a sign, digits before and after the point, and a power of ten spell; one that is too great
is none. -/
def floatOf (negative : Bool) (whole fraction : Chars) (power : Bool × Chars) : Option Value :=
  let size := Int.ofNat (valueIn 10 power.2)
  let exponent := (if power.1 then -size else size) - fraction.length
  match Double.ofDecimal negative (valueIn 10 (whole ++ fraction)) exponent with
  -- below zero it is taken for infinite
  | .infinite false => none
  | value => some (.float value)

def specialFloat (text : Chars) : Option (Value × Chars) :=
  let (negative, rest) := signed text
  match rest with
  | 'i' :: 'n' :: 'f' :: after => some (.float (.infinite negative), after)
  | 'n' :: 'a' :: 'n' :: after => some (.float .nan, after)
  | _ => none

/-- Whether a number at the front is a float: a fraction or a power of ten follows its digits. -/
def float? (text : Chars) : Option (Option (Value × Chars)) :=
  let (negative, rest) := signed text
  match whole rest with
  | none => none
  | some (digits, rest) =>
    match power rest with
    | some (found, after) => some ((floatOf negative digits [] found).map (·, after))
    | none =>
      match fraction rest with
      | none => none
      | some (fraction, rest) =>
        let (found, after) := (power rest).getD ((false, []), rest)
        some ((floatOf negative digits fraction found).map (·, after))

/-! Dates and times -/

def fixedDigits (count : Nat) (text : Chars) : Option (Nat × Chars) :=
  let found := text.take count
  if found.length == count && found.all isDigit then some (valueIn 10 found, text.drop count) else none

def mark (c : Char) : Chars → Option Chars
  | d :: rest => if d == c then some rest else none
  | [] => none

def date (text : Chars) : Option (Date × Chars) := do
  let (year, rest) ← fixedDigits 4 text
  let (month, rest) ← fixedDigits 2 (← mark '-' rest)
  let (day, rest) ← fixedDigits 2 (← mark '-' rest)
  if 1 ≤ month && month ≤ 12 && 1 ≤ day && day ≤ daysIn year month then return (⟨year, month, day⟩, rest)
  else none

/-- Digits of a fraction of a second, in nanoseconds; finer ones are cut off. -/
def nanoseconds (digits : Chars) : Nat :=
  valueIn 10 (digits.take 9) * Nat.pow 10 (9 - digits.length)

def time (text : Chars) : Option (Time × Chars) := do
  let (hour, rest) ← fixedDigits 2 text
  let (minute, rest) ← fixedDigits 2 (← mark ':' rest)
  let (second, rest) ← fixedDigits 2 (← mark ':' rest)
  let (fraction, rest) :=
    match rest with
    | '.' :: after =>
      if after.head?.any isDigit then (after.takeWhile isDigit, after.dropWhile isDigit) else ([], rest)
    | _ => ([], rest)
  -- a minute may have a leap second
  if hour ≤ 23 && minute ≤ 59 && second ≤ 60 then
    return (⟨hour, minute, second, nanoseconds fraction⟩, rest)
  else none

def offset : Chars → Option (Offset × Chars)
  | 'Z' :: rest => some (.universal, rest)
  | 'z' :: rest => some (.universal, rest)
  | text => do
    let negative ← match text.head? with
      | some '+' => some false
      | some '-' => some true
      | _ => none
    let (hour, rest) ← fixedDigits 2 (text.drop 1)
    let (minute, rest) ← fixedDigits 2 (← mark ':' rest)
    if hour ≤ 23 && minute ≤ 59 then return (.minutes negative (hour * 60 + minute), rest) else none

def joinsTime (c : Char) : Bool := c == 'T' || c == 't' || c == ' '

def datetime (text : Chars) : Option (Datetime × Chars) :=
  match date text with
  | none => (time text).map fun (time, rest) => (.time time, rest)
  | some (date, rest) =>
    match rest with
    | c :: after =>
      match if joinsTime c then time after else none with
      | some (time, after) =>
        match offset after with
        | some (offset, last) => some (.dated date time (some offset), last)
        | none => some (.dated date time none, after)
      | none => some (.date date, rest)
    | [] => some (.date date, rest)

def numeral (text : Chars) : Option (Value × Chars) :=
  match datetime text with
  | some (found, rest) => some (.datetime found, rest)
  | none =>
    match specialFloat text with
    | some found => some found
    | none =>
      match float? text with
      | some reading => reading
      | none => integer text

end HouseStyle.Toml
