import HouseStyle.Proofs.FindingPlaces
import HouseStyle.Proofs.TextMatches
import Mathlib.Data.List.Forall2

/-! Interfaces found in the text of a source.

The text is searched for the word `interface` with a name after it, and the names found are judged one by one.
Where a finding points to, the text has the name that the finding speaks of.
-/

set_option autoImplicit false
namespace HouseStyle.InterfaceNaming

open Text (Match)

/-! The pattern -/

/-- The text reads `interface`, some blanks and the name, and the name goes no further. -/
structure Declares (matched name after : List Char) : Prop where
  reads : ∃ blanks, matched = "interface".toList ++ (blanks ++ name) ∧ blanks ≠ [] ∧
    ∀ c ∈ blanks, Text.isBlank c = true
  identifier : Text.IsIdentifier name
  longest : ∀ c ∈ after.head?, Text.isIdentPart c = false

theorem trimStart_blanks {blanks name : List Char} (blank : ∀ c ∈ blanks, Text.isBlank c = true)
    (identifier : Text.IsIdentifier name) (after : List Char) :
    Text.trimStart (blanks ++ (name ++ after)) = name ++ after := by
  obtain ⟨c, rest, rfl, start, _⟩ := identifier
  refine (Text.span_iff.mpr ⟨rfl, blank, ?_⟩).2
  intro first same
  cases same
  exact Text.isBlank_of_isIdentStart start

theorem knows_declaration : Text.Matcher.Knows declaration? Declares where
  matches_iff text name after := by
    rw [declaration?]
    constructor
    · intro read
      split at read
      · next rest word =>
        split at read
        · next blank =>
          obtain ⟨trimmed, identifier, longest⟩ := Text.identifier?_eq_some_iff.mp read
          obtain ⟨split, blanks, _⟩ := (@Text.span_iff Text.isBlank rest _ _).mp ⟨rfl, trimmed⟩
          refine ⟨"interface".toList ++ (rest.takeWhile Text.isBlank ++ name), ?_, ⟨_, rfl, ?_, blanks⟩,
            identifier, longest⟩
          · rw [Text.after?_eq_some_iff.mp word, List.append_assoc, List.append_assoc, ← split]
          · -- the first character was seen to be blank
            intro none
            cases rest with
            | nil => cases blank
            | cons c rest =>
              rw [List.takeWhile_cons_of_pos (by simpa using blank)] at none
              cases none
        · cases read
      · cases read
    · rintro ⟨matched, rfl, ⟨blanks, rfl, filled, blank⟩, identifier, longest⟩
      have word : Text.after? "interface".toList ("interface".toList ++ (blanks ++ name) ++ after) =
          some (blanks ++ (name ++ after)) := by
        rw [Text.after?_eq_some_iff, List.append_assoc, List.append_assoc]
      have first : (blanks ++ (name ++ after)).head?.any Text.isBlank = true := by
        cases blanks with
        | nil => exact absurd rfl filled
        | cons c rest => exact blank c List.mem_cons_self
      rw [word]
      dsimp only
      rw [if_pos first, trimStart_blanks blank identifier, Text.identifier?_eq_some_iff]
      exact ⟨rfl, identifier, longest⟩
  filled matched name after declares := by
    obtain ⟨blanks, rfl, _⟩ := declares.reads
    exact List.append_ne_nil_of_left_ne_nil (by decide) _

/-! What is said about a name -/

/-- An `I` and a capital letter come first. -/
def Marked (name : List Char) : Prop := ∃ c rest, name = 'I' :: c :: rest ∧ Text.isAsciiUpper c = true

theorem hasMark_eq_false_iff {name : List Char} : hasMark name = false ↔ ¬Marked name := by
  rw [← Bool.not_eq_true, not_iff_not]
  constructor
  · intro mark
    rw [hasMark.eq_def] at mark
    split at mark
    · exact ⟨_, _, rfl, mark⟩
    · cases mark
  · rintro ⟨c, rest, rfl, upper⟩
    exact upper

def errorAt (subject : Subject) (source : String) (m : Match (List Char)) (message : String → String) : Finding :=
  (tag.finding subject .error (message (String.ofList m.value))).atPosition
    (Text.positionOf (Text.bytes source) m.start)

/-- An error tells that the name is not marked, another one that it is short. -/
def Judged (subject : Subject) (source : String) (m : Match (List Char)) (said : List Finding) : Prop :=
  ∃ unmarked short, said = unmarked ++ short ∧
    (errorAt subject source m markMessage).GivenWhen (¬Marked m.value) unmarked ∧
    (errorAt subject source m shortMessage).GivenWhen (m.value.length ≤ 2) short

/-- The finding points to the place where the text has the match, and complains about its name with reason. -/
structure Blames (source : String) (f : Finding) (m : Match (List Char)) : Prop where
  placed : ∃ line column, f.line = some line ∧ f.column = some column ∧
    Text.offsetOf (Text.bytes source) ⟨line, column⟩ = m.start
  reads : (Text.bytes source).drop m.start = Text.encode (m.matched ++ m.after)
  complains : (¬Marked m.value ∧ f.message = markMessage (String.ofList m.value)) ∨
    (m.value.length ≤ 2 ∧ f.message = shortMessage (String.ofList m.value))

theorem judged_checkName (subject : Subject) (source : String) (m : Match (List Char)) : Judged subject source m
    (checkName subject (Text.positionOf (Text.bytes source) m.start) (String.ofList m.value)) := by
  refine ⟨_, _, rfl, Finding.givenWhen_ite_nil _ ?_, Finding.givenWhen_ite _ ?_⟩
  · rw [String.toList_ofList]
    exact hasMark_eq_false_iff
  · rw [String.toList_ofList, isShort, decide_eq_true_eq]

theorem Judged.blames {subject : Subject} {source : String} {m : Match (List Char)} {said : List Finding} {f : Finding}
    (judged : Judged subject source m said) (stands : m.StandsIn Declares source.toList) (member : f ∈ said) :
    Blames source f m := by
  have placed (message : String → String) : ∃ line column,
      (errorAt subject source m message).line = some line ∧ (errorAt subject source m message).column = some column ∧
        Text.offsetOf (Text.bytes source) ⟨line, column⟩ = m.start :=
    ⟨_, _, rfl, rfl, Text.offsetOf_positionOf stands.start_le⟩
  obtain ⟨unmarked, short, rfl, marks, lengths⟩ := judged
  rcases List.mem_append.mp member with early | late
  · obtain ⟨violates, rfl⟩ := marks.of_mem early
    exact ⟨placed markMessage, stands.drop_encode, .inl ⟨violates, rfl⟩⟩
  · obtain ⟨violates, rfl⟩ := lengths.of_mem late
    exact ⟨placed shortMessage, stands.drop_encode, .inr ⟨violates, rfl⟩⟩

/-- The declarations that a search of the text meets are judged one after the other, each of them once; and every
finding points to a declaration whose name breaks the rule it tells of. -/
theorem checkText_judges_declarations (subject : Subject) (source : String) :
    ∃ found : List (Match (List Char)), Text.Successive Declares source.toList found ∧
      (∃ reports, List.Forall₂ (Judged subject source) found reports ∧ checkText subject source = reports.flatten) ∧
      ∀ f ∈ checkText subject source, ∃ m ∈ found, m.StandsIn Declares source.toList ∧ Blames source f m := by
  obtain ⟨found, successive, same⟩ := knows_declaration.occurrences_eq source.toList
  have whole : checkText subject source = found.flatMap fun m =>
      checkName subject (Text.positionOf (Text.bytes source) m.start) (String.ofList m.value) := by
    rw [checkText, same, List.flatMap_map]
    rfl
  refine ⟨found, successive, ⟨_, ?_, whole⟩, ?_⟩
  · rw [List.forall₂_map_right_iff, List.forall₂_same]
    exact fun m _ => judged_checkName subject source m
  · intro f member
    rw [whole] at member
    obtain ⟨m, listed, said⟩ := List.mem_flatMap.mp member
    have stands := ((successive.mem_iff m).mp listed).1
    exact ⟨m, listed, stands, (judged_checkName subject source m).blames stands said⟩

/-- The name of the first declaration is the word itself, so the word before `X` begins no declaration. -/
def overlapping : String := "é\ninterface interface X interface I"

theorem checkText_judges_overlapping_declarations :
    (checkText (.ofPath "a.ts") overlapping).map (fun f => (f.line, f.column)) =
        [(some 2, some 1), (some 2, some 23), (some 2, some 23)] ∧
      ∃ found : List (Match (List Char)), Text.Successive Declares overlapping.toList found ∧
        (∃ reports, List.Forall₂ (Judged (.ofPath "a.ts") overlapping) found reports ∧
          checkText (.ofPath "a.ts") overlapping = reports.flatten) ∧
        ∀ f ∈ checkText (.ofPath "a.ts") overlapping,
          ∃ m ∈ found, m.StandsIn Declares overlapping.toList ∧ Blames overlapping f m :=
  ⟨by decide +kernel, checkText_judges_declarations _ _⟩

end HouseStyle.InterfaceNaming
