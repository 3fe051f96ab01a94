import HouseStyle.Text.WordTable

/-!
Word characters and plain identifiers. A word character is looked up in a table; an identifier here is
the ASCII one: a letter, `_` or `$`, then letters, digits, `_` and `$`.
-/

set_option autoImplicit false
namespace HouseStyle.Text

def inRanges (ranges : List (Nat × Nat)) (c : Char) : Bool :=
  ranges.any fun range => range.1 ≤ c.toNat && c.toNat ≤ range.2

def isWordChar (c : Char) : Bool :=
  inRanges wordRanges c

def isAsciiUpper (c : Char) : Bool :=
  'A' ≤ c && c ≤ 'Z'

def isAsciiLower (c : Char) : Bool :=
  'a' ≤ c && c ≤ 'z'

def isAsciiDigit (c : Char) : Bool :=
  '0' ≤ c && c ≤ '9'

def isAsciiLetter (c : Char) : Bool :=
  isAsciiUpper c || isAsciiLower c

def isAsciiAlphanumeric (c : Char) : Bool :=
  isAsciiLetter c || isAsciiDigit c

def isIdentStart (c : Char) : Bool :=
  isAsciiLetter c || c == '_' || c == '$'

def isIdentPart (c : Char) : Bool :=
  isIdentStart c || isAsciiDigit c

/-- The longest identifier the text starts with, and what follows it. -/
def identifier? : List Char → Option (List Char × List Char)
  | [] => none
  | c :: rest =>
    if isIdentStart c then some (c :: rest.takeWhile isIdentPart, rest.dropWhile isIdentPart)
    else none

def asciiLower (c : Char) : Char :=
  if isAsciiUpper c then Char.ofNat (c.toNat + 32) else c

end HouseStyle.Text
