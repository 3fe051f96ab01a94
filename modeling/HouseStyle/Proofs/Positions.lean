import HouseStyle.Text.Position
import Mathlib.Data.List.Induction

/-! Byte lengths of texts, lines and columns as the text tells them, and the way back from them to a byte offset.

Going forward in a text, one stays on the line and the column grows, or one comes to a later line; so positions come
in the order of their offsets. Bytes can be cut in one way only into lines that have ended and one that has not, and
this is what a position counts.
-/

set_option autoImplicit false
namespace HouseStyle.Text

/-! Byte lengths -/

@[simp] theorem byteLength_append (first second : List Char) :
    byteLength (first ++ second) = byteLength first + byteLength second := by
  induction first with
  | nil => simp [byteLength]
  | cons c rest ih => simp [byteLength, ih, Nat.add_assoc]

theorem byteLength_pos {text : List Char} (filled : text ≠ []) : 0 < byteLength text := by
  cases text with
  | nil => exact absurd rfl filled
  | cons c rest =>
    rw [byteLength]
    exact Nat.add_pos_left c.utf8Size_pos _

theorem length_encode (text : List Char) : (encode text).length = byteLength text := by
  induction text with
  | nil => rfl
  | cons c rest ih =>
    rw [encode, List.flatMap_cons, List.length_append, String.length_utf8EncodeChar, byteLength]
    exact congrArg (c.utf8Size + ·) ih

theorem encode_append (first second : List Char) : encode (first ++ second) = encode first ++ encode second :=
  List.flatMap_append

/-- Of two starts of one text the one with fewer bytes is a start of the other. -/
theorem exists_append_of_byteLength_le {before before' text text' : List Char}
    (same : before ++ text = before' ++ text') (le : byteLength before ≤ byteLength before') :
    ∃ between, before' = before ++ between ∧ text = between ++ text' := by
  rcases List.append_eq_append_iff.mp same with ⟨between, longer, rest⟩ | ⟨between, shorter, rest⟩
  · exact ⟨between, longer, rest⟩
  · -- the other start is no longer, so nothing lies between
    have nothing : between = [] := by
      by_contra filled
      have more := byteLength_pos filled
      rw [shorter, byteLength_append] at le
      omega
    subst nothing
    exact ⟨[], by simp [shorter], by simp [rest]⟩

/-! Positions -/

/-- Where a line begins, when `above` lines come before it. -/
def lineStart : (above : Nat) → Bytes → Nat
  | 0, _ => 0
  | _ + 1, [] => 0
  | above + 1, b :: rest => (if b = newline then lineStart above rest else lineStart (above + 1) rest) + 1

def offsetOf (content : Bytes) (position : Position) : Nat :=
  lineStart (position.line - 1) content + (position.column - 1)

theorem lineStart_append (before after : Bytes) :
    lineStart (before.count newline + 1) (before ++ newline :: after) = before.length + 1 := by
  induction before with
  | nil => simp [lineStart]
  | cons b rest ih =>
    rw [List.cons_append, lineStart, List.length_cons]
    split
    · next newlineHere =>
      subst newlineHere
      rw [List.count_cons_self, ih]
    · next other =>
      rw [List.count_cons_of_ne (fun same => other same), ih]

theorem lastLineStart_concat (before : Bytes) (b : UInt8) :
    lastLineStart (before ++ [b]) = if b = newline then before.length + 1 else lastLineStart before := by
  rw [lastLineStart, lastLineStart, List.reverse_concat, List.takeWhile_cons]
  by_cases newlineHere : b = newline
  · simp [newlineHere]
  · simp [newlineHere]

/-- The last line of a start of the text begins where its number says. -/
theorem lineStart_count (before after : Bytes) :
    lineStart (before.count newline) (before ++ after) = lastLineStart before := by
  -- by the last byte: behind a newline a line begins, any other byte stays in its line
  induction before using List.reverseRecOn generalizing after with
  | nil => simp [lineStart, lastLineStart]
  | append_singleton before b ih =>
    rw [lastLineStart_concat, List.count_append, List.append_assoc, List.singleton_append]
    split
    · next newlineHere =>
      subst newlineHere
      rw [List.count_singleton_self, lineStart_append]
    · next other =>
      rw [List.count_singleton, if_neg (by simpa using other), Nat.add_zero, ih]

theorem lastLineStart_le (before : Bytes) : lastLineStart before ≤ before.length := Nat.sub_le _ _

/-- Line and column lead back to the offset they were made of. -/
theorem offsetOf_positionOf {content : Bytes} {offset : Nat} (within : offset ≤ content.length) :
    offsetOf content (positionOf content offset) = offset := by
  have start := lineStart_count (content.take offset) (content.drop offset)
  rw [List.take_append_drop] at start
  have le := lastLineStart_le (content.take offset)
  rw [List.length_take_of_le within] at le
  simp only [offsetOf, positionOf, Nat.add_sub_cancel, start, List.length_take_of_le within]
  omega

/-! Lines -/

/-- Only a line feed is spelled with the byte of a line feed. -/
theorem newline_not_mem_encodeChar {c : Char} (other : c ≠ '\n') : newline ∉ String.utf8EncodeChar c := by
  have code : c.val.toNat ≠ 10 := fun same => other (Char.toNat_inj.mp same)
  unfold String.utf8EncodeChar
  generalize c.val.toNat = n at code
  dsimp only
  -- a character of several bytes has none below 128
  split_ifs <;> simp [newline, ← UInt8.toNat_inj] <;> omega

theorem count_newline_encode (text : List Char) : (encode text).count newline = text.count '\n' := by
  induction text with
  | nil => rfl
  | cons c rest ih =>
    rw [show encode (c :: rest) = String.utf8EncodeChar c ++ encode rest from rfl, List.count_append, ih]
    by_cases feed : c = '\n'
    · subst feed
      rw [List.count_cons_self, Nat.add_comm]
      rfl
    · rw [List.count_cons_of_ne feed, List.count_eq_zero.mpr (newline_not_mem_encodeChar feed), Nat.zero_add]

/-- The line of a place is told by the line feeds before it. -/
theorem line_positionOf (before after : List Char) :
    (positionOf (encode (before ++ after)) (byteLength before)).line = before.count '\n' + 1 := by
  simp only [positionOf, encode_append, ← length_encode, List.take_left, count_newline_encode]

/-! The order of positions -/

theorem lastLineStart_append {before more : Bytes} (oneLine : newline ∉ more) :
    lastLineStart (before ++ more) = lastLineStart before := by
  induction more using List.reverseRecOn with
  | nil => rw [List.append_nil]
  | append_singleton more b ih =>
    rw [List.mem_append, List.mem_singleton, not_or] at oneLine
    rw [← List.append_assoc, lastLineStart_concat, if_neg (Ne.symm oneLine.2), ih oneLine.1]

/-- Further on in a text the line is a later one, or it is the same and the column has grown by the bytes passed. -/
theorem positionOf_forward {content : Bytes} {offset further : Nat} (forward : offset ≤ further)
    (within : further ≤ content.length) :
    (positionOf content offset).line < (positionOf content further).line ∨
      (positionOf content offset).line = (positionOf content further).line ∧
        (positionOf content further).column = (positionOf content offset).column + (further - offset) := by
  have split : content.take further = content.take offset ++ (content.drop offset).take (further - offset) := by
    rw [← List.take_add, Nat.add_sub_cancel' forward]
  have le := lastLineStart_le (content.take offset)
  rw [List.length_take_of_le (Nat.le_trans forward within)] at le
  simp only [positionOf, split, List.count_append, List.length_append, List.length_take, List.length_drop]
  by_cases oneLine : newline ∈ (content.drop offset).take (further - offset)
  · have passed := List.count_pos_iff.mpr oneLine
    omega
  · rw [List.count_eq_zero.mpr oneLine, lastLineStart_append oneLine]
    omega

def Position.NotBehind (first second : Position) : Prop :=
  first.line < second.line ∨ first.line = second.line ∧ first.column ≤ second.column

theorem positionOf_clamp (content : Bytes) (offset : Nat) :
    positionOf content (min offset content.length) = positionOf content offset := by
  simp only [positionOf, ← List.take_take, List.take_length]

theorem positionOf_notBehind (content : Bytes) {offset further : Nat} (forward : offset ≤ further) :
    (positionOf content offset).NotBehind (positionOf content further) := by
  rw [← positionOf_clamp content offset, ← positionOf_clamp content further]
  rcases positionOf_forward (show min offset content.length ≤ min further content.length by omega)
    (Nat.min_le_right _ _) with later | ⟨same, grown⟩
  · exact .inl later
  · exact .inr ⟨same, by omega⟩

example : offsetOf [0x61, 0x0A, 0xC3, 0xA9, 0x62] ⟨2, 3⟩ = 4 := by decide

/-! Whole lines -/

def ended (lines : List Bytes) : Bytes := lines.flatMap (· ++ [newline])

theorem ended_concat (lines : List Bytes) (line : Bytes) :
    ended (lines ++ [line]) = ended lines ++ line ++ [newline] := by
  simp [ended]

/-- Bytes are lines that have ended and one that has not. -/
theorem exists_lines (bytes : Bytes) :
    ∃ above before, bytes = ended above ++ before ∧ (∀ line ∈ above, newline ∉ line) ∧ newline ∉ before := by
  induction bytes using List.reverseRecOn with
  | nil => exact ⟨[], [], rfl, List.forall_mem_nil _, List.not_mem_nil⟩
  | append_singleton bytes b ih =>
    obtain ⟨above, before, rfl, whole, oneLine⟩ := ih
    by_cases newlineHere : b = newline
    · subst newlineHere
      refine ⟨above ++ [before], [], ?_, ?_, List.not_mem_nil⟩
      · rw [ended_concat, List.append_nil]
      · exact List.forall_mem_append.mpr ⟨whole, List.forall_mem_singleton.mpr oneLine⟩
    · refine ⟨above, before ++ [b], List.append_assoc _ _ _, whole, ?_⟩
      rw [List.mem_append, List.mem_singleton]
      exact not_or.mpr ⟨oneLine, Ne.symm newlineHere⟩

theorem count_newline_ended {lines : List Bytes} (whole : ∀ line ∈ lines, newline ∉ line) :
    (ended lines).count newline = lines.length := by
  induction lines with
  | nil => rfl
  | cons line rest ih =>
    obtain ⟨first, others⟩ := List.forall_mem_cons.mp whole
    rw [ended, List.flatMap_cons, ← ended, List.count_append, ih others, List.count_append,
      List.count_eq_zero.mpr first, List.count_singleton_self, List.length_cons]
    omega

theorem lastLineStart_ended (lines : List Bytes) : lastLineStart (ended lines) = (ended lines).length := by
  induction lines using List.reverseRecOn with
  | nil => rfl
  | append_singleton lines line ih =>
    rw [ended_concat, lastLineStart_concat, if_pos rfl, ← List.length_concat, List.concat_eq_append]

/-- The content begins with the lines above the position and the bytes before it on its own line, and the offset
lies behind them. -/
def Marks (content : Bytes) (offset : Nat) (position : Position) : Prop :=
  ∃ (above : List Bytes) (before after : Bytes), content = ended above ++ before ++ after ∧
    (∀ line ∈ above, newline ∉ line) ∧ newline ∉ before ∧
    position.line = above.length + 1 ∧ position.column = before.length + 1 ∧
    offset = (ended above).length + before.length

theorem positionOf_lines {above : List Bytes} {before : Bytes} (whole : ∀ line ∈ above, newline ∉ line)
    (oneLine : newline ∉ before) (after : Bytes) :
    positionOf (ended above ++ before ++ after) ((ended above).length + before.length) =
      ⟨above.length + 1, before.length + 1⟩ := by
  rw [← List.length_append, positionOf, List.take_left, List.count_append, count_newline_ended whole,
    List.count_eq_zero.mpr oneLine, lastLineStart_append oneLine, lastLineStart_ended, List.length_append]
  congr 1
  omega

/-- Line and column are those of the lines that the content begins with. -/
theorem marks_iff {content : Bytes} {offset : Nat} {position : Position} :
    Marks content offset position ↔ offset ≤ content.length ∧ positionOf content offset = position := by
  constructor
  · rintro ⟨above, before, after, rfl, whole, oneLine, line, column, rfl⟩
    constructor
    · simp
    · rw [positionOf_lines whole oneLine, ← line, ← column]
  · rintro ⟨within, rfl⟩
    obtain ⟨above, before, taken, whole, oneLine⟩ := exists_lines (content.take offset)
    have split : content = ended above ++ before ++ content.drop offset := by
      rw [← taken, List.take_append_drop]
    have behind : offset = (ended above).length + before.length := by
      rw [← List.length_append, ← taken, List.length_take_of_le within]
    have position := positionOf_lines whole oneLine (content.drop offset)
    rw [← split, ← behind] at position
    exact ⟨above, before, content.drop offset, split, whole, oneLine, by rw [position], by rw [position], behind⟩

def Position.Before (first second : Position) : Prop :=
  first.line < second.line ∨ first.line = second.line ∧ first.column < second.column

theorem positionOf_before {content : Bytes} {offset further : Nat} (forward : offset < further)
    (within : further ≤ content.length) : (positionOf content offset).Before (positionOf content further) := by
  rcases positionOf_forward (Nat.le_of_lt forward) within with later | ⟨same, grown⟩
  · exact .inl later
  · exact .inr ⟨same, by omega⟩

theorem positionOf_before_iff {content : Bytes} {offset further : Nat} (within : offset ≤ content.length)
    (furtherWithin : further ≤ content.length) :
    (positionOf content offset).Before (positionOf content further) ↔ offset < further := by
  constructor
  · intro before
    by_contra behind
    rcases Nat.lt_or_eq_of_le (Nat.not_lt.mp behind) with back | rfl
    · have turned := positionOf_before back within
      unfold Position.Before at before turned
      omega
    · unfold Position.Before at before
      omega
  · intro forward
    exact positionOf_before forward furtherWithin

/-- Offsets and positions are in the same order. Up to the end of the content an offset has just the position that the
lines above it and the bytes before it on its line tell, an earlier offset an earlier position, and from the end on
there is one position only. The start of a line is never behind an offset on it. -/
theorem positionOf_isomorphism (content : Bytes) :
    (∀ offset position, Marks content offset position ↔
        offset ≤ content.length ∧ positionOf content offset = position) ∧
      (∀ offset ≤ content.length, ∀ further ≤ content.length,
        offset < further ↔ (positionOf content offset).Before (positionOf content further)) ∧
      (∀ offset, content.length ≤ offset → positionOf content offset = positionOf content content.length) ∧
      ∀ offset, lastLineStart (content.take offset) + ((positionOf content offset).column - 1) =
        min offset content.length := by
  refine ⟨fun _ _ => marks_iff, ?_, ?_, ?_⟩
  · intro offset within further furtherWithin
    exact (positionOf_before_iff within furtherWithin).symm
  · intro offset beyond
    rw [← positionOf_clamp content offset, Nat.min_eq_right beyond]
  · intro offset
    have start := lastLineStart_le (content.take offset)
    simp only [positionOf, List.length_take] at start ⊢
    omega

end HouseStyle.Text
