import HouseStyle.Text.Split

/-!
Glob patterns over whole texts. `?` stands for one character, `*` for any run, `[…]` and `[!…]` for one
character of a set, and `**` as a whole path component for any number of directories. None of them
treats a slash or a leading dot specially.
-/

set_option autoImplicit false
namespace HouseStyle.Glob

structure Span where
  first : Char
  last : Char
  deriving DecidableEq, Repr

inductive Token where
  | literal (c : Char)
  | anyChar
  | anyRun
  | anyDirectories
  | oneOf (spans : List Span)
  | noneOf (spans : List Span)
  deriving DecidableEq, Repr

abbrev Pattern := List Token

inductive Fault where
  | wildcards
  | recursiveWildcards
  | range
  deriving DecidableEq, Repr

structure PatternError where
  position : Nat
  fault : Fault
  deriving DecidableEq, Repr

def Fault.message : Fault → String
  | .wildcards => "wildcards are either regular `*` or recursive `**`"
  | .recursiveWildcards => "recursive wildcards must form a single path component"
  | .range => "invalid range pattern"

def PatternError.message (e : PatternError) : String :=
  "Pattern syntax error near position " ++ toString e.position ++ ": " ++ e.fault.message

def spans : List Char → List Span
  | [] => []
  | first :: '-' :: last :: rest => ⟨first, last⟩ :: spans rest
  | c :: rest => ⟨c, c⟩ :: spans rest

/-- The inside of a set up to its closing bracket, which may not be its first character. -/
def setBody? : List Char → Option (List Char × List Char)
  | [] => none
  | c :: rest =>
    match rest.span (· != ']') with
    | (_, []) => none
    | (more, _ :: after) => some (c :: more, after)

def set? : List Char → Option (Token × List Char)
  | '!' :: rest => (setBody? rest).map fun (body, after) => (.noneOf (spans body), after)
  | rest => (setBody? rest).map fun (body, after) => (.oneOf (spans body), after)

def stars (text : List Char) : Nat :=
  (text.takeWhile (· == '*')).length

/-- The tokens of the text, which begins at index `at` and follows a slash or the start of the pattern
exactly when `fresh` holds. Each step uses up at least one character of `fuel`. -/
def tokens : Nat → Nat → Bool → List Char → Except PatternError Pattern
  | 0, _, _, _ => .ok []
  | _, _, _, [] => .ok []
  | fuel + 1, index, _, '?' :: rest => return .anyChar :: (← tokens fuel (index + 1) false rest)
  | fuel + 1, index, fresh, '*' :: rest =>
    match stars ('*' :: rest) with
    | 1 => return .anyRun :: (← tokens fuel (index + 1) false rest)
    | 2 =>
      if fresh then
        match rest.drop 1 with
        | [] => .ok [.anyDirectories]
        | '/' :: after => return .anyDirectories :: (← tokens fuel (index + 3) true after)
        | _ => .error ⟨index + 2, .recursiveWildcards⟩
      -- reported at the character before it
      else .error ⟨index - 1, .recursiveWildcards⟩
    | _ => .error ⟨index + 2, .wildcards⟩
  | fuel + 1, index, _, '[' :: rest =>
    match set? rest with
    | none => .error ⟨index, .range⟩
    | some (token, after) =>
      return token :: (← tokens fuel (index + 1 + (rest.length - after.length)) false after)
  | fuel + 1, index, _, c :: rest => return .literal c :: (← tokens fuel (index + 1) (c == '/') rest)

def parse (text : String) : Except PatternError Pattern :=
  tokens text.toList.length 0 true text.toList

def inSpans (spans : List Span) (c : Char) : Bool :=
  spans.any fun span => span.first ≤ c && c ≤ span.last

def afterRun (k : List Char → Bool) : List Char → Bool
  | [] => k []
  | c :: rest => k (c :: rest) || afterRun k rest

/-- The rest after some slash, or the empty rest, satisfies `k`. -/
def afterSlash (k : List Char → Bool) : List Char → Bool
  | [] => k []
  | c :: rest => (c == '/' && k rest) || afterSlash k rest

def accepts : Pattern → List Char → Bool
  | [], text => text.isEmpty
  | .anyRun :: rest, text => afterRun (accepts rest) text
  | .anyDirectories :: rest, text => accepts rest text || afterSlash (accepts rest) text
  | _ :: _, [] => false
  | .literal c :: rest, d :: text => c == d && accepts rest text
  | .anyChar :: rest, _ :: text => accepts rest text
  | .oneOf spans :: rest, c :: text => inSpans spans c && accepts rest text
  | .noneOf spans :: rest, c :: text => !inSpans spans c && accepts rest text

end HouseStyle.Glob
