import HouseStyle.Text.Utf8

/-!
Searching a text from left to right. A matcher looks at the front of a text; the search tries it at every
place that lies outside the matches found before.
-/

set_option autoImplicit false
namespace HouseStyle.Text

abbrev Matcher (α : Type) := List Char → Option (α × List Char)

structure Occurrence (α : Type) where
  offset : Nat
  text : List Char
  value : α
  deriving DecidableEq, Repr

/-- The matches in a text that follows `offset` bytes, where the first `skip` characters belong to a match
found before. -/
def occurrencesFrom {α : Type} (matcher : Matcher α) (offset : Nat) :
    (skip : Nat) → List Char → List (Occurrence α)
  | _, [] => []
  | skip + 1, c :: rest => occurrencesFrom matcher (offset + c.utf8Size) skip rest
  | 0, c :: rest =>
    match matcher (c :: rest) with
    | some (value, after) =>
      ⟨offset, c :: rest, value⟩ ::
        occurrencesFrom matcher (offset + c.utf8Size) (rest.length - after.length) rest
    | none => occurrencesFrom matcher (offset + c.utf8Size) 0 rest

def occurrences {α : Type} (matcher : Matcher α) (text : List Char) : List (Occurrence α) :=
  occurrencesFrom matcher 0 0 text

def after? (word : List Char) (text : List Char) : Option (List Char) :=
  if word.isPrefixOf text then some (text.drop word.length) else none

end HouseStyle.Text
