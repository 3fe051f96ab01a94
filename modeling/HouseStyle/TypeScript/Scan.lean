import HouseStyle.Text.Word

/-!
The lexemes of TypeScript text. Each scanner splits the text into the lexeme at its front and the rest,
or answers that no such lexeme stands there. Which scanner applies is for the grammar to say: a slash may
divide or open a regular expression, and a closing angle is never more than one character here.
-/

set_option autoImplicit false
namespace HouseStyle.TypeScript

abbrev Chars := List Char

abbrev Lexeme := Chars × Chars

def isSpace (c : Char) : Bool :=
  let n := c.toNat
  (0x09 ≤ n && n ≤ 0x0D) || n == 0x20 || n == 0xA0 || n == 0x1680 || (0x2000 ≤ n && n ≤ 0x200B) ||
    n == 0x2028 || n == 0x2029 || n == 0x202F || n == 0x205F || n == 0x2060 || n == 0x3000 ||
    n == 0xFEFF

def isPlainSpace (c : Char) : Bool :=
  (0x09 ≤ c.toNat && c.toNat ≤ 0x0D) || c.toNat == 0x20

def isPunctuation (c : Char) : Bool :=
  ":;`\"'@#.,|^&<=>+-*/\\%?!~()[]\x7b\x7d".toList.contains c

def isDigit (c : Char) : Bool := Text.isAsciiDigit c

def isHexDigit (c : Char) : Bool :=
  isDigit c || ('a' ≤ c && c ≤ 'f') || ('A' ≤ c && c ≤ 'F')

/-- Any character that is neither control, blank, digit nor punctuation can begin a name. -/
def isNameStart (c : Char) : Bool :=
  0x20 ≤ c.toNat && !isSpace c && !isDigit c && !isPunctuation c

def isNamePart (c : Char) : Bool :=
  isNameStart c || isDigit c

/-- The rest of a name, where `escaped` tells that the digits of `\u{…}` are being read. -/
def nameRest : Bool → Chars → Lexeme
  | _, [] => ([], [])
  | true, c :: rest =>
    let (more, after) := nameRest (c != '\x7d') rest
    (c :: more, after)
  | false, '\\' :: 'u' :: '\x7b' :: rest =>
    let (more, after) := nameRest true rest
    ('\\' :: 'u' :: '\x7b' :: more, after)
  | false, '\\' :: 'u' :: rest =>
    let (more, after) := nameRest false rest
    ('\\' :: 'u' :: more, after)
  | false, c :: rest =>
    if isNamePart c then
      let (more, after) := nameRest false rest
      (c :: more, after)
    else ([], c :: rest)

def name? : Chars → Option Lexeme
  | [] => none
  | '\\' :: 'u' :: rest => some (nameRest false ('\\' :: 'u' :: rest))
  | c :: rest => if isNameStart c then some (nameRest false (c :: rest)) else none

def nameAt (text : Chars) : String :=
  match name? text with
  | some (lexeme, _) => String.ofList lexeme
  | none => ""

def privateName? : Chars → Option Lexeme
  | '#' :: rest => (name? rest).map fun (lexeme, after) => ('#' :: lexeme, after)
  | _ => none

def exactly? (mark : Chars) (text : Chars) : Option Lexeme :=
  if mark.isPrefixOf text then some (mark, text.drop mark.length) else none

def endsLine (c : Char) : Bool :=
  c == '\n' || c == '\r' || c.toNat == 0x2028 || c.toNat == 0x2029

def blockRest? : Chars → Option Lexeme
  | [] => none
  | '*' :: '/' :: rest => some (['*', '/'], rest)
  | c :: rest => (blockRest? rest).map fun (more, after) => (c :: more, after)

def comment? : Chars → Option Lexeme
  | '/' :: '/' :: rest =>
    some ('/' :: '/' :: rest.takeWhile (!endsLine ·), rest.dropWhile (!endsLine ·))
  | '/' :: '*' :: rest => (blockRest? rest).map fun (more, after) => ('/' :: '*' :: more, after)
  | _ => none

inductive Trivia where
  | outside
  | line
  | block

def afterTrivia : Chars → (state : Trivia := .outside) → Chars
  | [], _ => []
  | '/' :: '/' :: rest, .outside => afterTrivia rest .line
  | '/' :: '*' :: rest, .outside => afterTrivia rest .block
  | c :: rest, .outside => if isSpace c then afterTrivia rest .outside else c :: rest
  | c :: rest, .line => if endsLine c then afterTrivia rest .outside else afterTrivia rest .line
  | '*' :: '/' :: rest, .block => afterTrivia rest .outside
  | _ :: rest, .block => afterTrivia rest .block

def breaksLine : Chars → (state : Trivia := .outside) → Bool
  | [], _ => false
  | '\n' :: _, _ => true
  | '/' :: '/' :: rest, .outside => breaksLine rest .line
  | '/' :: '*' :: rest, .outside => breaksLine rest .block
  | c :: rest, .outside => isSpace c && breaksLine rest .outside
  | c :: rest, .line => if endsLine c then breaksLine rest .outside else breaksLine rest .line
  | '*' :: '/' :: rest, .block => breaksLine rest .outside
  | _ :: rest, .block => breaksLine rest .block

def escaped? : Chars → Option Lexeme
  | [] => none
  | '\r' :: '\n' :: rest => some (['\r', '\n'], rest)
  | 'x' :: a :: b :: rest => if isHexDigit a && isHexDigit b then some (['x', a, b], rest) else none
  | 'x' :: _ => none
  | 'u' :: '\x7b' :: rest =>
    match rest.span isHexDigit with
    | (a :: digits, '\x7d' :: after) => some ('u' :: '\x7b' :: a :: digits ++ ['\x7d'], after)
    | _ => none
  | 'u' :: a :: b :: c :: d :: rest =>
    if [a, b, c, d].all isHexDigit then some (['u', a, b, c, d], rest) else none
  | 'u' :: _ => none
  | c :: rest => some ([c], rest)

/-- Up to and with the closing quote; a string ends on its line. What an escape holds beyond its first
character is read like other characters. -/
def quotedRest? (quote : Char) : Chars → Option Lexeme
  | [] => none
  | '\\' :: '\r' :: '\n' :: rest =>
    (quotedRest? quote rest).map fun (more, after) => ('\\' :: '\r' :: '\n' :: more, after)
  | '\\' :: c :: rest =>
    if (escaped? (c :: rest)).isSome then
      (quotedRest? quote rest).map fun (more, after) => ('\\' :: c :: more, after)
    else none
  | c :: rest =>
    if c == quote then some ([c], rest)
    else if c == '\n' || c == '\r' || c == '\\' then none
    else (quotedRest? quote rest).map fun (more, after) => (c :: more, after)

def string? : Chars → Option Lexeme
  | [] => none
  | quote :: rest =>
    if quote == '"' || quote == '\'' then
      (quotedRest? quote rest).map fun (more, after) => (quote :: more, after)
    else none

def plainString? : Chars → Option Lexeme
  | [] => none
  | quote :: rest =>
    if quote == '"' || quote == '\'' then
      match rest.span (· != quote) with
      | (_, []) => none
      | (inner, close :: after) => some (quote :: inner ++ [close], after)
    else none

def digits (isDigit : Char → Bool) : Chars → Lexeme
  | [] => ([], [])
  | '_' :: d :: rest =>
    if isDigit d then
      let (more, after) := digits isDigit rest
      ('_' :: d :: more, after)
    else ([], '_' :: d :: rest)
  | c :: rest =>
    if isDigit c then
      let (more, after) := digits isDigit rest
      (c :: more, after)
    else ([], c :: rest)

def exponent (text : Chars) : Lexeme :=
  let signed (mark : Chars) (rest : Chars) : Lexeme :=
    match digits isDigit rest with
    | ([], _) => ([], text)
    | (power, after) => (mark ++ power, after)
  match text with
  | 'e' :: '+' :: rest => signed ['e', '+'] rest
  | 'e' :: '-' :: rest => signed ['e', '-'] rest
  | 'e' :: rest => signed ['e'] rest
  | 'E' :: '+' :: rest => signed ['E', '+'] rest
  | 'E' :: '-' :: rest => signed ['E', '-'] rest
  | 'E' :: rest => signed ['E'] rest
  | _ => ([], text)

def based? (zero base : Char) (isDigit : Char → Bool) (rest : Chars) : Option Lexeme :=
  match digits isDigit rest with
  | ([], _) => none
  | (whole, 'n' :: after) => some (zero :: base :: whole ++ ['n'], after)
  | (whole, after) => some (zero :: base :: whole, after)

def number? : Chars → Option Lexeme
  | '0' :: 'x' :: rest => based? '0' 'x' isHexDigit rest
  | '0' :: 'X' :: rest => based? '0' 'X' isHexDigit rest
  | '0' :: 'b' :: rest => based? '0' 'b' (fun c => c == '0' || c == '1') rest
  | '0' :: 'B' :: rest => based? '0' 'B' (fun c => c == '0' || c == '1') rest
  | '0' :: 'o' :: rest => based? '0' 'o' (fun c => '0' ≤ c && c ≤ '7') rest
  | '0' :: 'O' :: rest => based? '0' 'O' (fun c => '0' ≤ c && c ≤ '7') rest
  | '.' :: rest =>
    match digits isDigit rest with
    | ([], _) => none
    | (fraction, after) =>
      let (power, after) := exponent after
      some ('.' :: fraction ++ power, after)
  | text =>
    match digits isDigit text with
    | ([], _) => none
    | (whole, 'n' :: after) => some (whole ++ ['n'], after)
    | (whole, '.' :: after) =>
      let (fraction, after) := digits isDigit after
      let (power, after) := exponent after
      some (whole ++ '.' :: fraction ++ power, after)
    | (whole, after) =>
      let (power, after) := exponent after
      some (whole ++ power, after)

/-- Up to and with the closing slash, where `inSet` tells that a bracketed set is open. -/
def regexRest? : Bool → Chars → Option Lexeme
  | _, [] => none
  | _, '\n' :: _ => none
  | inSet, '\\' :: c :: rest =>
    if c == '\n' then none else (regexRest? inSet rest).map fun (more, after) => ('\\' :: c :: more, after)
  | inSet, c :: rest =>
    if c == '/' && !inSet then some ([c], rest)
    else
      (regexRest? (c == '[' || (inSet && c != ']')) rest).map fun (more, after) => (c :: more, after)

def regex? : Chars → Option Lexeme
  | '/' :: rest =>
    (regexRest? false rest).map fun (body, after) =>
      ('/' :: body ++ after.takeWhile Text.isAsciiLower, after.dropWhile Text.isAsciiLower)
  | _ => none

def templateText : Chars → Lexeme
  | [] => ([], [])
  | '`' :: rest => ([], '`' :: rest)
  | '$' :: '\x7b' :: rest => ([], '$' :: '\x7b' :: rest)
  | '\\' :: c :: rest =>
    let (more, after) := templateText rest
    ('\\' :: c :: more, after)
  | c :: rest =>
    let (more, after) := templateText rest
    (c :: more, after)

def markupText (text : Chars) : Lexeme :=
  text.span fun c => c != '<' && c != '>' && c != '\x7b' && c != '\x7d'

def markupName? : Chars → Option Lexeme
  | [] => none
  | c :: rest =>
    if isNameStart c then
      some (c :: rest.takeWhile (fun d => isNamePart d || d == '-'),
        rest.dropWhile (fun d => isNamePart d || d == '-'))
    else none

def operators : List String :=
  [">>>=", "...", "===", "!==", ">>>", "<<=", ">>=", "**=", "&&=", "||=", "??=", "=>", "==", "!=",
    "<=", ">=", "&&", "||", "??", "?.", "++", "--", "+=", "-=", "*=", "/=", "%=", "&=", "|=", "^=",
    "<<", ">>", "**", "<", ">", "+", "-", "*", "/", "%", "&", "|", "^", "=", "?", "!", "~", "."]

def operatorAt (text : Chars) : String :=
  (operators.find? (·.toList.isPrefixOf text)).getD ""

/-- Past plain blanks and comments; `none` before a slash that opens no comment. -/
def afterBlankLines? : Chars → (state : Trivia := .outside) → Option Chars
  | [], _ => some []
  | '/' :: '/' :: rest, .outside => afterBlankLines? rest .line
  | '/' :: '*' :: rest, .outside => afterBlankLines? rest .block
  | c :: rest, .outside =>
    if isPlainSpace c then afterBlankLines? rest .outside
    else if c == '/' then none
    else some (c :: rest)
  | c :: rest, .line => if endsLine c then afterBlankLines? rest .outside else afterBlankLines? rest .line
  | '*' :: '/' :: rest, .block => afterBlankLines? rest .outside
  | _ :: rest, .block => afterBlankLines? rest .block

/-- What a missing semicolon is looked for after: an expression, which an opening bracket on the next line
continues, or a signature, which a block on the next line completes. -/
structure LineContext where
  expression : Bool := false
  signature : Bool := false

def beginsAnew (context : LineContext) (text : Chars) : Bool :=
  match text with
  | [] => true
  | '\x7b' :: _ => !context.signature
  | '(' :: _ => !context.expression
  | '[' :: _ => !context.expression
  -- a doubled sign begins an operand, a single one goes on with the line before
  | '+' :: rest => rest.head? == some '+'
  | '-' :: rest => rest.head? == some '-'
  | '!' :: rest => rest.head? != some '='
  -- `in` and `instanceof` go on with the line before, other names do not
  | 'i' :: 'n' :: rest =>
    match rest with
    | c :: _ =>
      if !Text.isAsciiLetter c then false
      else if "stanceof".toList.isPrefixOf rest then (rest.drop 8).head?.any Text.isAsciiLetter
      else true
    | [] => false
  | c :: _ => !"`,.;*%><=?^|&/:".toList.contains c

/-- A semicolon may be left out here: the text ends, a closing brace follows, or the line ends and the next
one begins anew. -/
def lineMayEnd (context : LineContext) : Chars → Bool
  | [] => true
  | '\x7d' :: rest =>
    if (rest.dropWhile isPlainSpace).head? == some ':' then context.expression else true
  | '\n' :: rest =>
    match afterBlankLines? rest with
    | some text => beginsAnew context text
    | none => false
  | c :: rest => if isPlainSpace c then lineMayEnd context rest else false

def operandWords : List String :=
  ["return", "typeof", "case", "in", "of", "instanceof", "new", "delete", "void", "throw", "await",
    "yield", "do", "else"]

/-- The text after the last of the closers still owed, innermost first, a backtick for a template.
`operand` tells that an operand came last, so that a slash divides. -/
def afterClosers : Nat → List Char → Bool → Chars → Option Chars
  | 0, _, _, _ => none
  | _, [], _, text => some text
  | _, _, _, [] => none
  | fuel + 1, '`' :: owed, _, text =>
    match templateText text with
    | (_, '`' :: rest) => afterClosers fuel owed true rest
    | (_, '$' :: '\x7b' :: rest) => afterClosers fuel ('\x7d' :: '`' :: owed) false rest
    | _ => none
  | fuel + 1, closer :: owed, operand, c :: rest =>
    if c == closer then afterClosers fuel owed true rest
    else if isSpace c then afterClosers fuel (closer :: owed) operand rest
    else
      match c with
      | '(' => afterClosers fuel (')' :: closer :: owed) false rest
      | '[' => afterClosers fuel (']' :: closer :: owed) false rest
      | '\x7b' => afterClosers fuel ('\x7d' :: closer :: owed) false rest
      | '`' => afterClosers fuel ('`' :: closer :: owed) false rest
      | ')' => none
      | ']' => none
      | '\x7d' => none
      | _ =>
        match comment? (c :: rest) with
        | some (_, after) => afterClosers fuel (closer :: owed) operand after
        | none =>
          match string? (c :: rest) with
          | some (_, after) => afterClosers fuel (closer :: owed) true after
          | none =>
            match name? (c :: rest) with
            | some (word, after) =>
              afterClosers fuel (closer :: owed) (!operandWords.contains (String.ofList word)) after
            | none =>
              if isDigit c then
                match number? (c :: rest) with
                | some (_, after) => afterClosers fuel (closer :: owed) true after
                | none => none
              else if c == '/' && !operand then
                match regex? (c :: rest) with
                | some (_, after) => afterClosers fuel (closer :: owed) true after
                -- a slash that closes nothing is passed over like an operator
                | none => afterClosers fuel (closer :: owed) false rest
              else afterClosers fuel (closer :: owed) false rest

def afterCloser? (steps : Nat) (closer : Char) (text : Chars) : Option Chars :=
  afterClosers steps [closer] false text

end HouseStyle.TypeScript
