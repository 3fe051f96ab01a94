import HouseStyle.Proofs.Positions
import HouseStyle.Text.Blank
import HouseStyle.Text.Search
import HouseStyle.Text.Word

/-! Which matches a search finds.

A search tries its matcher at one place after the other and goes on behind each match. So what it finds are the
matches that begin outside all matches before them; they are told apart by where they begin, and no two of them
overlap.
-/

set_option autoImplicit false
namespace HouseStyle.Text

section
variable {α : Type}

/-- A match in a text, and the text before and after it. -/
@[ext] structure Match (α : Type) where
  before : List Char
  matched : List Char
  after : List Char
  value : α

namespace Match

def start (m : Match α) : Nat := byteLength m.before

def stop (m : Match α) : Nat := byteLength (m.before ++ m.matched)

def occurrence (m : Match α) : Occurrence α := ⟨m.start, m.matched ++ m.after, m.value⟩

/-- The text has the match in it; a pattern tells what may be matched, for which value and before which text. -/
structure StandsIn (pattern : List Char → α → List Char → Prop) (text : List Char) (m : Match α) : Prop where
  whole : text = m.before ++ (m.matched ++ m.after)
  fits : pattern m.matched m.value m.after

/-- The bytes from the start of a match on are those of the match and what follows it. -/
theorem StandsIn.drop_encode {pattern : List Char → α → List Char → Prop} {text : List Char} {m : Match α}
    (stands : m.StandsIn pattern text) : (encode text).drop m.start = encode (m.matched ++ m.after) := by
  rw [stands.whole, encode_append, start, ← length_encode, List.drop_left]

theorem StandsIn.start_le {pattern : List Char → α → List Char → Prop} {text : List Char} {m : Match α}
    (stands : m.StandsIn pattern text) : m.start ≤ (encode text).length := by
  rw [stands.whole, length_encode, byteLength_append]
  exact Nat.le_add_right _ _

theorem start_le_stop (m : Match α) : m.start ≤ m.stop := by
  rw [start, stop, byteLength_append]
  exact Nat.le_add_right _ _

theorem stop_le_of_start_lt {found : List (Match α)} (apart : found.Pairwise fun m m' => m.stop ≤ m'.start)
    {m m' : Match α} (listed : m ∈ found) (listed' : m' ∈ found) (before : m.start < m'.start) :
    m.stop ≤ m'.start := by
  obtain ⟨i, bound, rfl⟩ := List.getElem_of_mem listed
  obtain ⟨j, bound', rfl⟩ := List.getElem_of_mem listed'
  rcases Nat.lt_trichotomy i j with less | rfl | more
  · exact List.pairwise_iff_getElem.mp apart i j bound bound' less
  · exact absurd before (Nat.lt_irrefl _)
  · have other := List.pairwise_iff_getElem.mp apart j i bound' bound more
    have forwards := start_le_stop found[j]
    omega

end Match

/-- The matcher knows the pattern, and the pattern does not match nothing. -/
structure Matcher.Knows (matcher : Matcher α) (pattern : List Char → α → List Char → Prop) : Prop where
  matches_iff : ∀ text value after,
    matcher text = some (value, after) ↔ ∃ matched, text = matched ++ after ∧ pattern matched value after
  filled : ∀ matched value after, pattern matched value after → matched ≠ []

/-- The matches are those in the text that begin outside the matches before them, in order and without overlap. -/
structure Successive (pattern : List Char → α → List Char → Prop) (text : List Char) (found : List (Match α)) :
    Prop where
  mem_iff : ∀ m, m ∈ found ↔
    m.StandsIn pattern text ∧ ∀ earlier ∈ found, earlier.start < m.start → earlier.stop ≤ m.start
  apart : found.Pairwise fun m m' => m.stop ≤ m'.start

/-! The search step by step -/

section
variable {matcher : Matcher α}

/-- Skipped characters are passed over. -/
theorem occurrencesFrom_skip (offset : Nat) (skipped text : List Char) :
    occurrencesFrom matcher offset skipped.length (skipped ++ text) =
      occurrencesFrom matcher (offset + byteLength skipped) 0 text := by
  induction skipped generalizing offset with
  | nil => simp [byteLength]
  | cons c rest ih => rw [List.length_cons, List.cons_append, occurrencesFrom, ih, byteLength, Nat.add_assoc]

theorem occurrencesFrom_of_none {offset : Nat} {c : Char} {rest : List Char} (none : matcher (c :: rest) = none) :
    occurrencesFrom matcher offset 0 (c :: rest) = occurrencesFrom matcher (offset + c.utf8Size) 0 rest := by
  rw [occurrencesFrom, none]

/-- After a match the search goes on behind it. -/
theorem occurrencesFrom_of_some {offset : Nat} {matched after : List Char} {value : α} (filled : matched ≠ [])
    (found : matcher (matched ++ after) = some (value, after)) :
    occurrencesFrom matcher offset 0 (matched ++ after) =
      ⟨offset, matched ++ after, value⟩ :: occurrencesFrom matcher (offset + byteLength matched) 0 after := by
  cases matched with
  | nil => exact absurd rfl filled
  | cons c rest =>
    rw [List.cons_append] at found ⊢
    rw [occurrencesFrom, found]
    dsimp only
    rw [List.length_append, Nat.add_sub_cancel, occurrencesFrom_skip, byteLength, Nat.add_assoc]

/-- What is found does not depend on where the text begins. -/
theorem map_value_occurrencesFrom (offset offset' skip : Nat) (text : List Char) :
    (occurrencesFrom matcher offset skip text).map (·.value) =
      (occurrencesFrom matcher offset' skip text).map (·.value) := by
  induction text generalizing offset offset' skip with
  | nil => simp only [occurrencesFrom]
  | cons c rest ih =>
    cases skip with
    | succ skip =>
      rw [occurrencesFrom, occurrencesFrom]
      exact ih _ _ _
    | zero =>
      rw [occurrencesFrom, occurrencesFrom]
      cases matcher (c :: rest) with
      | none => exact ih _ _ _
      | some found => exact congrArg (found.1 :: ·) (ih _ _ _)

end

/-- How the rest of a text is searched, when `before` was searched already. -/
inductive Searched (pattern : List Char → α → List Char → Prop) :
    (before rest : List Char) → List (Match α) → Prop where
  | done {before : List Char} : Searched pattern before [] []
  | pass {before : List Char} {c : Char} {rest : List Char} {found : List (Match α)} :
      (∀ matched value after, c :: rest = matched ++ after → ¬pattern matched value after) →
      Searched pattern (before ++ [c]) rest found → Searched pattern before (c :: rest) found
  | found {before matched after : List Char} {value : α} {later : List (Match α)} : pattern matched value after →
      Searched pattern (before ++ matched) after later →
      Searched pattern before (matched ++ after) (⟨before, matched, after, value⟩ :: later)

section
variable {matcher : Matcher α} {pattern : List Char → α → List Char → Prop}

theorem Matcher.Knows.searched (knows : matcher.Knows pattern) (before rest : List Char) :
    ∃ found, Searched pattern before rest found ∧
      occurrencesFrom matcher (byteLength before) 0 rest = found.map Match.occurrence := by
  match rest with
  | [] => exact ⟨[], .done, by rw [occurrencesFrom, List.map_nil]⟩
  | c :: rest =>
    cases result : matcher (c :: rest) with
    | none =>
      obtain ⟨found, searched, same⟩ := knows.searched (before ++ [c]) rest
      refine ⟨found, .pass ?_ searched, ?_⟩
      · intro matched value after split fits
        rw [(knows.matches_iff _ value after).mpr ⟨matched, split, fits⟩] at result
        cases result
      · rw [occurrencesFrom_of_none result, ← same, byteLength_append]
        rfl
    | some pair =>
      -- what was matched is not empty, so less is left to be searched
      obtain ⟨value, after⟩ := pair
      obtain ⟨matched, split, fits⟩ := (knows.matches_iff _ _ _).mp result
      have filled := knows.filled _ _ _ fits
      have shorter : after.length < (c :: rest).length := by
        have some := List.length_pos_iff.mpr filled
        rw [split, List.length_append]
        omega
      obtain ⟨later, searched, same⟩ := knows.searched (before ++ matched) after
      rw [split] at result ⊢
      refine ⟨_, .found fits searched, ?_⟩
      rw [occurrencesFrom_of_some filled result, ← byteLength_append, same]
      rfl
termination_by rest.length
decreasing_by
  · exact Nat.lt_succ_self _
  · exact shorter

theorem Matcher.Knows.unique (knows : matcher.Knows pattern) {matched matched' after after' : List Char}
    {value value' : α} (same : matched ++ after = matched' ++ after') (fits : pattern matched value after)
    (fits' : pattern matched' value' after') : matched = matched' ∧ value = value' ∧ after = after' := by
  have first := (knows.matches_iff (matched ++ after) value after).mpr ⟨matched, rfl, fits⟩
  have second := (knows.matches_iff (matched ++ after) value' after').mpr ⟨matched', same, fits'⟩
  rw [first] at second
  cases second
  exact ⟨List.append_cancel_right same, rfl, rfl⟩

namespace Searched

variable {before rest : List Char} {found : List (Match α)}

theorem standsIn (searched : Searched pattern before rest found) {m : Match α} (member : m ∈ found) :
    m.StandsIn pattern (before ++ rest) ∧ byteLength before ≤ m.start := by
  induction searched with
  | done => cases member
  | @pass before c rest found _ _ ih =>
    obtain ⟨stands, after⟩ := ih member
    rw [List.append_assoc, List.singleton_append] at stands
    rw [byteLength_append] at after
    exact ⟨stands, by omega⟩
  | @found before matched after value later fits _ ih =>
    rcases List.mem_cons.mp member with rfl | further
    · exact ⟨⟨rfl, fits⟩, Nat.le_refl _⟩
    · obtain ⟨stands, behind⟩ := ih further
      rw [List.append_assoc] at stands
      rw [byteLength_append] at behind
      exact ⟨stands, by omega⟩

theorem apart (searched : Searched pattern before rest found) :
    found.Pairwise fun m m' => m.stop ≤ m'.start := by
  induction searched with
  | done => exact .nil
  | pass _ _ ih => exact ih
  | found _ searched ih => exact .cons (fun m member => (searched.standsIn member).2) ih

/-- A match from here on is found, or it begins inside one that is found. -/
theorem mem_or_inside (knows : matcher.Knows pattern) (searched : Searched pattern before rest found) {m : Match α}
    (stands : m.StandsIn pattern (before ++ rest)) (here : byteLength before ≤ m.start) :
    m ∈ found ∨ ∃ earlier ∈ found, earlier.start < m.start ∧ m.start < earlier.stop := by
  induction searched with
  | done =>
    obtain ⟨_, _, split⟩ := exists_append_of_byteLength_le stands.whole here
    have nothing := (List.append_eq_nil_iff.mp (List.append_eq_nil_iff.mp split.symm).2).1
    exact absurd nothing (knows.filled _ _ _ stands.fits)
  | @pass before c rest found misses _ ih =>
    obtain ⟨between, longer, split⟩ := exists_append_of_byteLength_le stands.whole here
    cases between with
    | nil => exact absurd stands.fits (misses _ _ _ split)
    | cons d between =>
      obtain ⟨rfl, _⟩ := List.cons.inj split
      refine ih (by simpa using stands) ?_
      rw [Match.start, longer]
      simp only [byteLength_append, byteLength]
      omega
  | @found before own behind value later fits searched ih =>
    -- it begins behind the match that was found here, or at the same place, or inside it
    by_cases beyond : byteLength (before ++ own) ≤ m.start
    · rcases ih (by simpa using stands) beyond with member | ⟨earlier, listed, inside⟩
      · exact .inl (List.mem_cons_of_mem _ member)
      · exact .inr ⟨earlier, List.mem_cons_of_mem _ listed, inside⟩
    · obtain ⟨between, longer, split⟩ := exists_append_of_byteLength_le stands.whole here
      cases between with
      | nil =>
        -- a match at the same place is the match that was found
        rw [List.nil_append] at split
        obtain ⟨matched, valued, followed⟩ := knows.unique split fits stands.fits
        rw [List.append_nil] at longer
        have same : m = ⟨before, own, behind, value⟩ := Match.ext longer matched.symm followed.symm valued.symm
        exact .inl (same ▸ List.mem_cons_self)
      | cons d between =>
        refine .inr ⟨_, List.mem_cons_self, ?_, Nat.lt_of_not_le beyond⟩
        rw [Match.start, Match.start, longer, byteLength_append]
        exact Nat.lt_add_of_pos_right (byteLength_pos (List.cons_ne_nil _ _))

end Searched

/-- A search finds the successive matches of the pattern that its matcher knows. -/
theorem Matcher.Knows.occurrences_eq (knows : matcher.Knows pattern) (text : List Char) :
    ∃ found, Successive pattern text found ∧ occurrences matcher text = found.map Match.occurrence := by
  obtain ⟨found, searched, same⟩ := knows.searched [] text
  refine ⟨found, ⟨fun m => ⟨fun member => ?_, ?_⟩, searched.apart⟩, same⟩
  · refine ⟨(searched.standsIn member).1, fun earlier listed before => ?_⟩
    exact Match.stop_le_of_start_lt searched.apart listed member before
  · rintro ⟨stands, outside⟩
    rcases searched.mem_or_inside knows stands (Nat.zero_le _) with member | ⟨earlier, listed, before, inside⟩
    · exact member
    · exact absurd (outside earlier listed before) (Nat.not_le_of_gt inside)

end
end

/-! Pieces of patterns -/

theorem after?_eq_some_iff {word text rest : List Char} : after? word text = some rest ↔ text = word ++ rest := by
  rw [after?]
  constructor
  · intro found
    split at found
    · next begins =>
      obtain ⟨tail, rfl⟩ := List.isPrefixOf_iff_prefix.mp begins
      simpa using found
    · cases found
  · rintro rfl
    rw [if_pos (List.isPrefixOf_iff_prefix.mpr (List.prefix_append _ _)), List.drop_left]

/-- The longest run of characters of a class, and what follows it. -/
theorem span_iff {test : Char → Bool} {text run rest : List Char} :
    text.takeWhile test = run ∧ text.dropWhile test = rest ↔
      text = run ++ rest ∧ (∀ c ∈ run, test c = true) ∧ ∀ c ∈ rest.head?, test c = false := by
  constructor
  · rintro ⟨rfl, rfl⟩
    refine ⟨List.takeWhile_append_dropWhile.symm, List.all_eq_true.mp List.all_takeWhile, fun c first => ?_⟩
    have stops := List.head?_dropWhile_not test text
    rw [first] at stops
    exact stops
  · rintro ⟨rfl, inside, stops⟩
    have none : rest.takeWhile test = [] ∧ rest.dropWhile test = rest := by
      cases rest with
      | nil => exact ⟨rfl, rfl⟩
      | cons c more => simp [stops c rfl]
    rw [List.takeWhile_append_of_pos inside, List.dropWhile_append_of_pos inside, none.1, none.2, List.append_nil]
    exact ⟨rfl, rfl⟩

/-- A letter, `_` or `$`, and then letters, digits, `_` and `$`. -/
def IsIdentifier (name : List Char) : Prop :=
  ∃ c rest, name = c :: rest ∧ isIdentStart c = true ∧ ∀ d ∈ rest, isIdentPart d = true

theorem identifier?_eq_some_iff {text name rest : List Char} : identifier? text = some (name, rest) ↔
    text = name ++ rest ∧ IsIdentifier name ∧ ∀ c ∈ rest.head?, isIdentPart c = false := by
  constructor
  · intro read
    cases text with
    | nil => cases read
    | cons c text =>
      rw [identifier?] at read
      split at read
      · next start =>
        cases read
        obtain ⟨split, inside, stops⟩ := span_iff.mp ⟨rfl, rfl⟩
        exact ⟨congrArg (c :: ·) split, ⟨c, _, rfl, start, inside⟩, stops⟩
      · cases read
  · rintro ⟨rfl, ⟨c, more, rfl, start, inside⟩, stops⟩
    obtain ⟨run, left⟩ := span_iff.mpr ⟨rfl, inside, stops⟩
    rw [List.cons_append, identifier?, if_pos start, run, left]

theorem isBlank_of_isIdentStart {c : Char} (start : isIdentStart c = true) : isBlank c = false := by
  have codes : 0x41 ≤ c.toNat ∧ c.toNat ≤ 0x5A ∨ 0x61 ≤ c.toNat ∧ c.toNat ≤ 0x7A ∨ c.toNat = 0x5F ∨ c.toNat = 0x24 := by
    simp only [isIdentStart, isAsciiLetter, isAsciiUpper, isAsciiLower, Bool.or_eq_true, Bool.and_eq_true,
      decide_eq_true_eq, beq_iff_eq, Char.le_def, UInt32.le_iff_toNat_le] at start
    rcases start with ((upper | lower) | rfl) | rfl
    · exact .inl upper
    · exact .inr (.inl lower)
    · exact .inr (.inr (.inl rfl))
    · exact .inr (.inr (.inr rfl))
  rw [Bool.eq_false_iff]
  intro blank
  simp only [isBlank, Bool.or_eq_true, Bool.and_eq_true, decide_eq_true_eq, beq_iff_eq] at blank
  omega

/-- The code points of blanks. -/
def blankCodes : List Nat :=
  [0x09, 0x0A, 0x0B, 0x0C, 0x0D, 0x20, 0x85, 0xA0, 0x1680, 0x2000, 0x2001, 0x2002, 0x2003, 0x2004, 0x2005, 0x2006,
    0x2007, 0x2008, 0x2009, 0x200A, 0x2028, 0x2029, 0x202F, 0x205F, 0x3000]

theorem isWordChar_of_isBlank {c : Char} (blank : isBlank c = true) : isWordChar c = false := by
  have listed : c.toNat ∈ blankCodes := by
    simp only [isBlank, Bool.or_eq_true, Bool.and_eq_true, decide_eq_true_eq, beq_iff_eq] at blank
    simp only [blankCodes, List.mem_cons, List.not_mem_nil, or_false]
    omega
  have outside : ∀ n ∈ blankCodes, (wordRanges.any fun range => range.1 ≤ n && n ≤ range.2) = false := by
    decide +kernel
  exact outside _ listed

theorem isIdentPart_of_isBlank {c : Char} (blank : isBlank c = true) : isIdentPart c = false := by
  have start : isIdentStart c = false := by
    rw [Bool.eq_false_iff]
    intro start
    rw [isBlank_of_isIdentStart start] at blank
    cases blank
  rw [isIdentPart, start, Bool.false_or, isAsciiDigit, Bool.eq_false_iff]
  intro digit
  have low : ('0' : Char).val.toNat = 0x30 := rfl
  have high : ('9' : Char).val.toNat = 0x39 := rfl
  simp only [Bool.and_eq_true, decide_eq_true_eq, Char.le_def, UInt32.le_iff_toNat_le] at digit
  simp only [isBlank, Bool.or_eq_true, Bool.and_eq_true, decide_eq_true_eq, beq_iff_eq, Char.toNat] at blank
  omega

theorem not_mem_of_isIdentifier {name : List Char} (identifier : IsIdentifier name) {c : Char}
    (other : isIdentPart c = false) : c ∉ name := by
  obtain ⟨d, rest, rfl, start, parts⟩ := identifier
  intro member
  rcases List.mem_cons.mp member with rfl | later
  · rw [isIdentPart, start, Bool.true_or] at other
    cases other
  · rw [parts c later] at other
    cases other

end HouseStyle.Text
