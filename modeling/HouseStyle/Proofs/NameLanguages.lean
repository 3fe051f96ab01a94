import HouseStyle.Proofs.FileNames
import Mathlib.Computability.RegularExpressions

/-! The file names that pass the naming rule are a regular language.

A proper name is a capital letter, then letters, digits and dots, then the extension; in an allowed one hyphens may
stand as well, and anything of these may come first. The rule does not run an expression: it cuts the extension off
and looks at what is left, or at the whole name if there was none to cut off. Proper names are the allowed ones that
begin with a capital letter and have no separator, so that the three complaints together leave just these.
-/

set_option autoImplicit false
namespace HouseStyle

namespace Text

/-! Expressions over characters -/

def oneOf (characters : List Char) : RegularExpression Char :=
  characters.foldr (fun c others => .char c + others) 0

def exactly (word : List Char) : RegularExpression Char :=
  word.foldr (fun c rest => .char c * rest) 1

theorem mem_oneOf {characters text : List Char} :
    text ∈ (oneOf characters).matches' ↔ ∃ c ∈ characters, text = [c] := by
  induction characters with
  | nil => simp [oneOf]
  | cons c others ih =>
    rw [oneOf, List.foldr_cons, RegularExpression.matches'_add, Language.mem_add, ← oneOf, ih, List.exists_mem_cons_iff]
    exact Iff.rfl

theorem mem_exactly {word text : List Char} : text ∈ (exactly word).matches' ↔ text = word := by
  induction word generalizing text with
  | nil => simp [exactly]
  | cons c rest ih =>
    rw [exactly, List.foldr_cons, RegularExpression.matches'_mul, Language.mem_mul, ← exactly]
    constructor
    · rintro ⟨first, single, others, same, rfl⟩
      rw [ih.mp same, show first = [c] from single, List.singleton_append]
    · rintro rfl
      exact ⟨[c], rfl, rest, ih.mpr rfl, rfl⟩

theorem mem_star_oneOf {characters text : List Char} :
    text ∈ (oneOf characters).star.matches' ↔ ∀ c ∈ text, c ∈ characters := by
  rw [RegularExpression.matches'_star, Language.mem_kstar]
  constructor
  · rintro ⟨words, rfl, each⟩ c member
    obtain ⟨word, present, inside⟩ := List.mem_flatten.mp member
    obtain ⟨d, listed, rfl⟩ := mem_oneOf.mp (each word present)
    rwa [List.mem_singleton.mp inside]
  · -- every character is a word of its own
    intro all
    refine ⟨text.map ([·]), (List.flatMap_singleton' text).symm, ?_⟩
    intro word present
    obtain ⟨c, member, rfl⟩ := List.mem_map.mp present
    exact mem_oneOf.mpr ⟨c, all c member, rfl⟩

/-- A list of ASCII characters is a class as soon as it agrees with the class on these. -/
theorem mem_iff_of_ascii {characters : List Char} {isMember : Char → Bool}
    (ascii : ∀ c, isMember c = true → c.toNat < 128) (sound : characters.all isMember = true)
    (complete : ∀ n < 128, isMember (Char.ofNat n) = true → Char.ofNat n ∈ characters) (c : Char) :
    c ∈ characters ↔ isMember c = true := by
  constructor
  · exact List.all_eq_true.mp sound c
  · intro member
    exact forall_ascii (motive := fun c => isMember c = true → c ∈ characters) complete (ascii c member) member

end Text

namespace FileNaming

open Text (oneOf exactly)

/-! The two languages -/

def capitalLetters : List Char := "ABCDEFGHIJKLMNOPQRSTUVWXYZ".toList

def smallLetters : List Char := "abcdefghijklmnopqrstuvwxyz".toList

def digits : List Char := "0123456789".toList

def bareCharacters : List Char := capitalLetters ++ smallLetters ++ digits ++ ['.']

/-- A capital letter, then letters, digits and dots, then the extension. -/
def properName : RegularExpression Char :=
  oneOf capitalLetters * (oneOf bareCharacters).star * exactly ".ts".toList

/-- One or more letters, digits, dots and hyphens, then the extension. -/
def allowedName : RegularExpression Char :=
  oneOf (bareCharacters ++ ['-']) * (oneOf (bareCharacters ++ ['-'])).star * exactly ".ts".toList

theorem mem_capitalLetters (c : Char) : c ∈ capitalLetters ↔ Text.isAsciiUpper c = true := by
  apply Text.mem_iff_of_ascii
  · intro c upper
    have range := Text.isAsciiUpper_iff.mp upper
    omega
  · rfl
  · decide +kernel

theorem mem_bareCharacters (c : Char) : c ∈ bareCharacters ↔ Text.isBare c = true := by
  apply Text.mem_iff_of_ascii
  · intro c bare
    exact Text.ascii_of_isBare bare
  · rfl
  · decide +kernel

theorem isAllowed_iff (c : Char) : isAllowed c = true ↔ c ∈ bareCharacters ++ ['-'] := by
  rw [List.mem_append, mem_bareCharacters, List.mem_singleton]
  simp [isAllowed, Text.isBare]

theorem mem_spelled {first others name : List Char} :
    name ∈ (oneOf first * (oneOf others).star * exactly ".ts".toList).matches' ↔
      ∃ c rest, name = c :: rest ++ extension ∧ c ∈ first ∧ ∀ d ∈ rest, d ∈ others := by
  rw [RegularExpression.matches'_mul, RegularExpression.matches'_mul, Language.mem_mul]
  constructor
  · rintro ⟨_, ⟨_, single, rest, more, rfl⟩, last, same, rfl⟩
    obtain ⟨c, member, rfl⟩ := Text.mem_oneOf.mp single
    rw [Text.mem_exactly.mp same]
    exact ⟨c, rest, rfl, member, Text.mem_star_oneOf.mp more⟩
  · rintro ⟨c, rest, rfl, member, more⟩
    have single : [c] ∈ (oneOf first).matches' := Text.mem_oneOf.mpr ⟨c, member, rfl⟩
    exact ⟨_, ⟨[c], single, rest, Text.mem_star_oneOf.mpr more, rfl⟩, extension, Text.mem_exactly.mpr rfl, rfl⟩

theorem mem_properName {name : List Char} :
    name ∈ properName.matches' ↔ ∃ stem, name = stem ++ extension ∧ Proper stem := by
  rw [properName, mem_spelled]
  constructor
  · rintro ⟨c, rest, rfl, capital, bare⟩
    refine ⟨c :: rest, rfl, c, rest, rfl, (mem_capitalLetters c).mp capital, ?_⟩
    simp only [← mem_bareCharacters]
    exact List.forall_mem_cons.mpr ⟨by simp [bareCharacters, capital], bare⟩
  · rintro ⟨_, rfl, c, rest, rfl, upper, bare⟩
    refine ⟨c, rest, rfl, (mem_capitalLetters c).mpr upper, ?_⟩
    intro d later
    exact (mem_bareCharacters d).mpr (bare d (List.mem_cons_of_mem c later))

theorem mem_allowedName {name : List Char} :
    name ∈ allowedName.matches' ↔ ∃ stem, name = stem ++ extension ∧ stem ≠ [] ∧ stem.all isAllowed = true := by
  simp only [List.all_eq_true, isAllowed_iff]
  rw [allowedName, mem_spelled]
  constructor
  · rintro ⟨c, rest, rfl, allowed, others⟩
    exact ⟨c :: rest, rfl, List.cons_ne_nil c rest, List.forall_mem_cons.mpr ⟨allowed, others⟩⟩
  · rintro ⟨stem, rfl, filled, allowed⟩
    obtain ⟨c, rest, rfl⟩ := List.exists_cons_of_ne_nil filled
    obtain ⟨here, later⟩ := List.forall_mem_cons.mp allowed
    exact ⟨c, rest, rfl, here, later⟩

/-! Names without their extension -/

/-- What comes before the extension, or the whole name if it does not end with it. -/
inductive HasBase : List Char → List Char → Prop where
  | cut (stem : List Char) : HasBase (stem ++ ".ts".toList) stem
  | whole {name : List Char} : ¬ ".ts".toList <:+ name → HasBase name name

theorem stem?_eq_some_iff {name stem : List Char} : stem? name = some stem ↔ name = stem ++ extension := by
  constructor
  · rw [stem?]
    split
    · next ends =>
      intro cut
      obtain ⟨front, rfl⟩ := List.isSuffixOf_iff_suffix.mp ends
      rw [List.length_append, Nat.add_sub_cancel, List.take_left] at cut
      rw [Option.some.inj cut]
    · simp
  · rintro rfl
    exact stem?_append stem

theorem hasBase_base (name : List Char) : HasBase name (base name) := by
  rw [base]
  cases cut : stem? name with
  | some stem =>
    rw [stem?_eq_some_iff.mp cut]
    exact .cut stem
  | none =>
    apply HasBase.whole
    rintro ⟨stem, rfl⟩
    have some : stem? (stem ++ ".ts".toList) = some stem := stem?_append stem
    rw [some] at cut
    cases cut

theorem hasAllowedCharacters_iff (name : List Char) :
    hasAllowedCharacters name = true ↔ name ∈ allowedName.matches' := by
  rw [hasAllowedCharacters, mem_allowedName]
  constructor
  · intro allowed
    split at allowed
    · next stem cut =>
      rw [Bool.and_eq_true] at allowed
      exact ⟨stem, stem?_eq_some_iff.mp cut, by simpa using allowed.1, allowed.2⟩
    · cases allowed
  · rintro ⟨stem, rfl, filled, allowed⟩
    rw [stem?_append]
    simp [filled, allowed]

theorem startsUpper_iff (text : List Char) :
    startsUpper text = true ↔ ∃ c rest, text = c :: rest ∧ c ∈ capitalLetters := by
  cases text with
  | nil => simp [startsUpper]
  | cons c rest => simp [startsUpper, mem_capitalLetters]

theorem hasSeparator_iff (text : List Char) : hasSeparator text = true ↔ '-' ∈ text ∨ '_' ∈ text := by
  rw [hasSeparator, List.any_eq_true]
  constructor
  · rintro ⟨c, member, separates⟩
    rcases List.mem_pair.mp (isWordSeparator_iff.mp separates) with rfl | rfl
    · exact .inl member
    · exact .inr member
  · rintro (member | member)
    · exact ⟨_, member, rfl⟩
    · exact ⟨_, member, rfl⟩

/-! Complaints -/

inductive Fault where
  | capital
  | characters
  | separator
  deriving DecidableEq

namespace Fault

def Applies (name base : List Char) : Fault → Prop
  | capital => ¬ ∃ c rest, base = c :: rest ∧ c ∈ capitalLetters
  | characters => name ∉ allowedName.matches'
  | separator => '-' ∈ base ∨ '_' ∈ base

def severity : Fault → Severity
  | capital => .error
  | characters => .error
  | separator => .warning

def message (fileName : String) : Fault → String
  | capital => capitalMessage fileName
  | characters => charactersMessage fileName
  | separator => separatorMessage fileName

/-- Faults are those of a whole file: there is no line and no column. -/
def finding (subject : Subject) (fault : Fault) : Finding where
  code := "GL001"
  rule := "file-naming"
  file := subject.path
  message := fault.message subject.fileName
  line := none
  column := none
  severity := fault.severity

/-- The test that the check makes for a fault. -/
def found (name : List Char) : Fault → Bool
  | capital => !startsUpper (base name)
  | characters => !hasAllowedCharacters name
  | separator => hasSeparator (base name)

theorem found_iff (name : List Char) (fault : Fault) : fault.found name = true ↔ fault.Applies name (base name) := by
  cases fault with
  | capital => rw [found, Bool.not_eq_true', Bool.eq_false_iff, ne_eq, startsUpper_iff, Applies]
  | characters => rw [found, Bool.not_eq_true', Bool.eq_false_iff, ne_eq, hasAllowedCharacters_iff, Applies]
  | separator => exact hasSeparator_iff (base name)

end Fault

/-- Some exemption is the name up to the case of letters. -/
def Exempt (exemptions : List String) (fileName : String) : Prop :=
  ∃ exemption ∈ exemptions, Text.lowercase exemption = Text.lowercase fileName

theorem isExempt_iff (exemptions : List String) (fileName : String) :
    isExempt exemptions fileName = true ↔ Exempt exemptions fileName := by
  rw [isExempt, List.contains_iff_mem, List.mem_map, Exempt]

/-- A name that is not exempt has its faults listed one after the other. -/
theorem check_eq_faults {exemptions : List String} {subject : Subject}
    (judged : isExempt exemptions subject.fileName = false) :
    check exemptions subject =
      ([Fault.capital, .characters, .separator].filter (·.found subject.fileName.toList)).map (·.finding subject) := by
  simp only [check, judged, Bool.false_eq_true, if_false, List.filter_cons, List.filter_nil, Fault.found]
  cases startsUpper (base subject.fileName.toList) <;> cases hasAllowedCharacters subject.fileName.toList <;>
    cases hasSeparator (base subject.fileName.toList) <;> rfl

/-- A name in which no test finds anything is proper. -/
theorem proper_of_faultless {name : List Char} (faultless : ∀ fault : Fault, fault.found name = false) :
    ∃ stem, name = stem ++ extension ∧ Proper stem := by
  have upper := faultless .capital
  have allowed := faultless .characters
  have unbroken := faultless .separator
  simp only [Fault.found, Bool.not_eq_false'] at upper allowed unbroken
  obtain ⟨stem, rfl, _, kept⟩ := mem_allowedName.mp ((hasAllowedCharacters_iff name).mp allowed)
  rw [base_append] at upper unbroken
  obtain ⟨c, rest, rfl, capital⟩ := (startsUpper_iff stem).mp upper
  refine ⟨_, rfl, c, rest, rfl, (mem_capitalLetters c).mp capital, ?_⟩
  -- what is allowed and no hyphen is a letter, a digit or a dot
  intro d member
  have bare := (isAllowed_iff d).mp (List.all_eq_true.mp kept d member)
  rw [List.mem_append, List.mem_singleton, mem_bareCharacters] at bare
  rcases bare with bare | rfl
  · exact bare
  · rw [(hasSeparator_iff _).mpr (.inl member)] at unbroken
    cases unbroken

theorem check_eq_nil_iff (exemptions : List String) (subject : Subject) :
    check exemptions subject = [] ↔
      isExempt exemptions subject.fileName = true ∨ subject.fileName.toList ∈ properName.matches' := by
  constructor
  · intro silent
    cases judged : isExempt exemptions subject.fileName with
    | true => exact .inl rfl
    | false =>
      rw [check_eq_faults judged, List.map_eq_nil_iff, List.filter_eq_nil_iff] at silent
      apply Or.inr
      apply mem_properName.mpr
      apply proper_of_faultless
      intro fault
      cases fault <;> simpa using silent _ (by decide)
  · rintro (exempt | proper)
    · simp [check, exempt]
    · obtain ⟨stem, named, proper⟩ := mem_properName.mp proper
      exact check_of_proper exemptions proper named

/-- A file passes just if its name is exempt, whatever the case of its letters, or proper. If it is not exempt, the
findings are its faults in a fixed order, each of them found by itself. -/
theorem check_by_language (exemptions : List String) (read : Reader) (subject : Subject) :
    let name := subject.fileName.toList
    ((rule exemptions).check read subject = .findings [] ↔
        Exempt exemptions subject.fileName ∨ name ∈ properName.matches') ∧
      (¬ Exempt exemptions subject.fileName → ∃ (base : List Char) (faults : List Fault), HasBase name base ∧
        faults.Sublist [.capital, .characters, .separator] ∧ (∀ fault, fault ∈ faults ↔ fault.Applies name base) ∧
        (rule exemptions).check read subject = .findings (faults.map (·.finding subject))) := by
  intro name
  constructor
  · rw [rule, Verdict.findings.injEq, check_eq_nil_iff, isExempt_iff]
  · intro judged
    rw [← isExempt_iff, Bool.not_eq_true] at judged
    refine ⟨base name, _, hasBase_base name, List.filter_sublist, ?_, congrArg _ (check_eq_faults judged)⟩
    intro fault
    rw [List.mem_filter, Fault.found_iff]
    apply and_iff_right
    cases fault <;> decide

/-- The extension alone, another extension, and no name at all. -/
example : ([".ts", "src/X.tsx", "src/.."].map fun path => (check [] (.ofPath path)).length) = [2, 1, 2] := by
  decide +kernel

end FileNaming
end HouseStyle
