/-!
Cutting a run of characters or bytes at separators. Empty pieces are kept, so `n` separators give `n + 1`
pieces and joining them with the separators restores the whole.
-/

set_option autoImplicit false
namespace HouseStyle.Text

variable {α : Type}

def splitAt (sep : α → Bool) : List α → List (List α)
  | [] => [[]]
  | c :: rest =>
    match splitAt sep rest with
    | [] => [[c]]
    | piece :: pieces => if sep c then [] :: piece :: pieces else (c :: piece) :: pieces

def joinWith (sep : α) : List (List α) → List α
  | [] => []
  | [piece] => piece
  | piece :: pieces => piece ++ sep :: joinWith sep pieces

theorem splitAt_ne_nil (sep : α → Bool) (text : List α) : splitAt sep text ≠ [] := by
  induction text with
  | nil => simp [splitAt]
  | cons c rest ih =>
    rw [splitAt]
    split
    · simp
    · split <;> simp

theorem joinWith_splitAt [BEq α] [LawfulBEq α] (sep : α) (text : List α) :
    joinWith sep (splitAt (· == sep) text) = text := by
  induction text with
  | nil => rfl
  | cons c rest ih =>
    rw [splitAt]
    split
    · next none => exact absurd none (splitAt_ne_nil _ _)
    · next piece pieces some =>
      rw [some] at ih
      by_cases same : c = sep
      · subst same
        simpa [joinWith] using ih
      · cases pieces with
        | nil => simpa [same, joinWith] using ih
        | cons next others => simpa [same, joinWith] using ih

def occursIn (needle : List Char) : List Char → Bool
  | [] => needle.isEmpty
  | c :: rest => needle.isPrefixOf (c :: rest) || occursIn needle rest

end HouseStyle.Text
