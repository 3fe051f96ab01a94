import HouseStyle.Proofs.EncodedText
import HouseStyle.Proofs.PathJoining
import HouseStyle.Proofs.Policies
import HouseStyle.Rule.FileNaming

/-! File names, and the names that are suggested for them.

PascalCase can be written down one character at a time: separators go, what comes first or after a separator
becomes upper case, and all else lower case. From a name of ASCII letters, digits, dots and separators it makes one
of letters, digits and dots; so nothing is left of a suggestion for the rule to find fault with, once a letter comes
first.
-/

set_option autoImplicit false
namespace HouseStyle

namespace Text

/-! The case of ASCII characters -/

/-- An ASCII small letter becomes its capital; every other character stays. -/
def asciiUpper (c : Char) : Char :=
  if isAsciiLower c then Char.ofNat (c.toNat - 32) else c

theorem lookup_of_forall_ne {entries : List (Nat × List Nat)} {n : Nat} (apart : ∀ entry ∈ entries, n < entry.1) :
    entries.lookup n = none := by
  rw [List.lookup_eq_none_iff]
  intro entry listed
  simpa using Nat.ne_of_lt (apart entry listed)

/-- Of a table in order, an ASCII character can only be in the first run. -/
theorem mapCase_of_ascii {run : CaseRun} {runs : List CaseRun} {expansions : List (Nat × List Nat)}
    (later : ∀ r ∈ runs, 128 ≤ r.first) (listed : ∀ entry ∈ expansions, 128 ≤ entry.1) {c : Char}
    (ascii : c.toNat < 128) :
    mapCase (run :: runs) expansions c =
      [if run.covers c.toNat then Char.ofNat (run.image + (c.toNat - run.first)) else c] := by
  have single : expansions.lookup c.toNat = none :=
    lookup_of_forall_ne fun entry member => Nat.lt_of_lt_of_le ascii (listed entry member)
  have outside : runs.find? (·.covers c.toNat) = none := by
    rw [List.find?_eq_none]
    intro r member
    have first := later r member
    simp only [CaseRun.covers, Bool.and_eq_true, decide_eq_true_eq]
    omega
  rw [mapCase, single]
  dsimp only
  rw [List.find?_cons, outside]
  cases run.covers c.toNat <;> rfl

theorem isAsciiUpper_iff {c : Char} : isAsciiUpper c = true ↔ 0x41 ≤ c.toNat ∧ c.toNat ≤ 0x5A := by
  simp only [isAsciiUpper, Bool.and_eq_true, decide_eq_true_eq, Char.le_def, UInt32.le_iff_toNat_le]
  rfl

theorem isAsciiLower_iff {c : Char} : isAsciiLower c = true ↔ 0x61 ≤ c.toNat ∧ c.toNat ≤ 0x7A := by
  simp only [isAsciiLower, Bool.and_eq_true, decide_eq_true_eq, Char.le_def, UInt32.le_iff_toNat_le]
  rfl

theorem isAsciiDigit_iff {c : Char} : isAsciiDigit c = true ↔ 0x30 ≤ c.toNat ∧ c.toNat ≤ 0x39 := by
  simp only [isAsciiDigit, Bool.and_eq_true, decide_eq_true_eq, Char.le_def, UInt32.le_iff_toNat_le]
  rfl

theorem lower_of_ascii {c : Char} (ascii : c.toNat < 128) : lower c = [asciiLower c] := by
  have covers : (CaseRun.mk 0x41 0x5A 1 0x61).covers c.toNat = isAsciiUpper c := by
    rw [Bool.eq_iff_iff, isAsciiUpper_iff]
    simp [CaseRun.covers, Nat.mod_one]
  rw [lower, show lowerRuns = ⟨0x41, 0x5A, 1, 0x61⟩ :: lowerRuns.tail from rfl,
    mapCase_of_ascii (by decide +kernel) (by decide +kernel) ascii, covers, asciiLower]
  split
  · next capital =>
    have code : 0x61 + (c.toNat - 0x41) = c.toNat + 32 := by
      have range := isAsciiUpper_iff.mp capital
      omega
    rw [code]
  · rfl

theorem upper_of_ascii {c : Char} (ascii : c.toNat < 128) : upper c = [asciiUpper c] := by
  have covers : (CaseRun.mk 0x61 0x7A 1 0x41).covers c.toNat = isAsciiLower c := by
    rw [Bool.eq_iff_iff, isAsciiLower_iff]
    simp [CaseRun.covers, Nat.mod_one]
  rw [upper, show upperRuns = ⟨0x61, 0x7A, 1, 0x41⟩ :: upperRuns.tail from rfl,
    mapCase_of_ascii (by decide +kernel) (by decide +kernel) ascii, covers, asciiUpper]
  split
  · next small =>
    have code : 0x41 + (c.toNat - 0x61) = c.toNat - 32 := by
      have range := isAsciiLower_iff.mp small
      omega
    rw [code]
  · rfl

/-! Words one character at a time -/

/-- The text without separators, where `first` tells that a word begins here. -/
def capitals (first : Bool) : List Char → List Char
  | [] => []
  | c :: rest =>
    if isWordSeparator c then capitals true rest
    else (if first then upper c else lower c) ++ capitals false rest

/-- The words and the characters agree, at the start of a word and within it. -/
theorem capitals_eq {text piece : List Char} {pieces : List (List Char)}
    (split : splitAt isWordSeparator text = piece :: pieces) :
    capitals true text = capitalize piece ++ pieces.flatMap capitalize ∧
      capitals false text = piece.flatMap lower ++ pieces.flatMap capitalize := by
  induction text generalizing piece pieces with
  | nil =>
    cases split
    simp [capitals, capitalize]
  | cons c rest ih =>
    obtain ⟨first, others, pair⟩ := List.exists_cons_of_ne_nil (splitAt_ne_nil isWordSeparator rest)
    obtain ⟨start, within⟩ := ih pair
    simp only [splitAt, pair] at split
    by_cases separator : isWordSeparator c = true
    · rw [if_pos separator] at split
      cases split
      simp [capitals, separator, start, capitalize]
    · rw [if_neg separator] at split
      cases split
      simp [capitals, separator, within, capitalize]

theorem toList_pascalCase (name : String) : (pascalCase name).toList = capitals true name.toList := by
  obtain ⟨piece, pieces, split⟩ := List.exists_cons_of_ne_nil (splitAt_ne_nil isWordSeparator name.toList)
  rw [pascalCase, String.toList_ofList, split, List.flatMap_cons, (capitals_eq split).1]

/-- Separators in front leave no trace. -/
theorem capitals_of_separators {front : List Char} (separators : ∀ c ∈ front, isWordSeparator c = true)
    (text : List Char) : capitals true (front ++ text) = capitals true text := by
  induction front with
  | nil => rfl
  | cons c front ih =>
    rw [List.cons_append, capitals, if_pos (separators c List.mem_cons_self)]
    exact ih fun d later => separators d (List.mem_cons_of_mem c later)

/-! Letters, digits and dots -/

def isBare (c : Char) : Bool := isAsciiAlphanumeric c || c == '.'

theorem ascii_of_isBare {c : Char} (bare : isBare c = true) : c.toNat < 128 := by
  simp only [isBare, isAsciiAlphanumeric, isAsciiLetter, Bool.or_eq_true, isAsciiUpper_iff, isAsciiLower_iff,
    isAsciiDigit_iff, beq_iff_eq] at bare
  rcases bare with ((upper | lower) | digit) | rfl
  · omega
  · omega
  · omega
  · decide

theorem ascii_of_isWordSeparator {c : Char} (separator : isWordSeparator c = true) : c.toNat < 128 := by
  simp only [isWordSeparator, Bool.or_eq_true, beq_iff_eq] at separator
  rcases separator with rfl | rfl
  · decide
  · decide

theorem forall_ascii {motive : Char → Prop} (each : ∀ n < 128, motive (Char.ofNat n)) {c : Char}
    (ascii : c.toNat < 128) : motive c := by
  simpa using each c.toNat ascii

theorem isBare_asciiLower {c : Char} (bare : isBare c = true) : isBare (asciiLower c) = true := by
  refine forall_ascii (motive := fun c => isBare c = true → isBare (asciiLower c) = true) ?_ (ascii_of_isBare bare) bare
  decide

theorem isBare_asciiUpper {c : Char} (bare : isBare c = true) : isBare (asciiUpper c) = true := by
  refine forall_ascii (motive := fun c => isBare c = true → isBare (asciiUpper c) = true) ?_ (ascii_of_isBare bare) bare
  decide

theorem isAsciiUpper_asciiUpper {c : Char} (letter : isAsciiLetter c = true) : isAsciiUpper (asciiUpper c) = true := by
  have ascii : c.toNat < 128 := ascii_of_isBare (by simp [isBare, isAsciiAlphanumeric, letter])
  refine forall_ascii (motive := fun c => isAsciiLetter c = true → isAsciiUpper (asciiUpper c) = true) ?_ ascii letter
  decide

theorem isWordSeparator_of_isBare {c : Char} (bare : isBare c = true) : isWordSeparator c = false := by
  refine forall_ascii (motive := fun c => isBare c = true → isWordSeparator c = false) ?_ (ascii_of_isBare bare) bare
  decide

/-- What is left of a character is its capital or its small letter. -/
theorem exists_of_mem_capitals {text : List Char} (ascii : ∀ c ∈ text, c.toNat < 128) {first : Bool} {d : Char}
    (member : d ∈ capitals first text) :
    ∃ c ∈ text, isWordSeparator c = false ∧ (d = asciiUpper c ∨ d = asciiLower c) := by
  induction text generalizing first with
  | nil => cases member
  | cons c rest ih =>
    have later : ∀ start, d ∈ capitals start rest →
        ∃ c' ∈ c :: rest, isWordSeparator c' = false ∧ (d = asciiUpper c' ∨ d = asciiLower c') := by
      intro start further
      obtain ⟨c', inside, image⟩ := ih (fun c' inside => ascii c' (List.mem_cons_of_mem c inside)) further
      exact ⟨c', List.mem_cons_of_mem c inside, image⟩
    rw [capitals, upper_of_ascii (ascii c List.mem_cons_self), lower_of_ascii (ascii c List.mem_cons_self)] at member
    split at member
    · exact later true member
    · next kept =>
      rcases List.mem_append.mp member with here | further
      · refine ⟨c, List.mem_cons_self, Bool.eq_false_iff.mpr kept, ?_⟩
        cases first with
        | true => exact .inl (List.mem_singleton.mp here)
        | false => exact .inr (List.mem_singleton.mp here)
      · exact later false further

theorem isBare_of_mem_capitals {text : List Char} (plain : ∀ c ∈ text, isBare c = true ∨ isWordSeparator c = true)
    {first : Bool} {d : Char} (member : d ∈ capitals first text) : isBare d = true := by
  have ascii : ∀ c ∈ text, c.toNat < 128 := by
    intro c inside
    rcases plain c inside with bare | separator
    · exact ascii_of_isBare bare
    · exact ascii_of_isWordSeparator separator
  obtain ⟨c, inside, kept, image⟩ := exists_of_mem_capitals ascii member
  have bare := (plain c inside).resolve_right (Bool.eq_false_iff.mp kept)
  rcases image with rfl | rfl
  · exact isBare_asciiUpper bare
  · exact isBare_asciiLower bare

end Text

theorem Path.isName_bytes_iff (text : String) :
    IsName text ↔ text ≠ "" ∧ text ≠ "." ∧ text ≠ ".." ∧ '/' ∉ text.toList := by
  have spelled : ∀ other : String, Text.bytes text ≠ Text.bytes other ↔ text ≠ other := fun other =>
    not_congr ⟨Text.bytes_injective, congrArg Text.bytes⟩
  rw [IsName, ← spelled "", ← spelled ".", ← spelled "..", Text.mem_bytes_iff (by decide)]
  rfl

namespace FileNaming

theorem stem?_append (text : List Char) : stem? (text ++ extension) = some text := by
  rw [stem?, if_pos (List.isSuffixOf_iff_suffix.mpr (List.suffix_append _ _)), List.length_append,
    Nat.add_sub_cancel, List.take_left]

theorem base_append (text : List Char) : base (text ++ extension) = text := by
  rw [base, stem?_append, Option.getD_some]

/-- Letters, digits, dots and separators, and the first that is no separator is a letter. -/
structure Repairable (name : List Char) : Prop where
  plain : ∀ c ∈ name, Text.isAsciiAlphanumeric c = true ∨ c ∈ ['.', '-', '_']
  letter : ∃ front c rest, name = front ++ c :: rest ∧ (∀ d ∈ front, d ∈ ['-', '_']) ∧ Text.isAsciiLetter c = true

/-- A capital letter first, and then letters, digits and dots. -/
def Proper (name : List Char) : Prop :=
  ∃ c rest, name = c :: rest ∧ Text.isAsciiUpper c = true ∧ ∀ d ∈ name, Text.isBare d = true

theorem isWordSeparator_iff {c : Char} : Text.isWordSeparator c = true ↔ c ∈ ['-', '_'] := by
  simp [Text.isWordSeparator]

theorem Repairable.proper {name : List Char} (repairable : Repairable name) : Proper (Text.capitals true name) := by
  have plain : ∀ c ∈ name, Text.isBare c = true ∨ Text.isWordSeparator c = true := by
    intro c member
    have kinds := repairable.plain c member
    simp only [Text.isBare, isWordSeparator_iff, Bool.or_eq_true, beq_iff_eq, List.mem_cons] at kinds ⊢
    tauto
  obtain ⟨front, c, rest, rfl, separators, letter⟩ := repairable.letter
  have bare : Text.isBare c = true := by simp [Text.isBare, Text.isAsciiAlphanumeric, letter]
  have first : Text.capitals true (front ++ c :: rest) = Text.asciiUpper c :: Text.capitals false rest := by
    rw [Text.capitals_of_separators fun d member => isWordSeparator_iff.mpr (separators d member), Text.capitals,
      Text.isWordSeparator_of_isBare bare, Text.upper_of_ascii (Text.ascii_of_isBare bare)]
    rfl
  exact ⟨_, _, first, Text.isAsciiUpper_asciiUpper letter, fun d member => Text.isBare_of_mem_capitals plain member⟩

/-- A proper name passes all checks, exempt or not. -/
theorem check_of_proper (exemptions : List String) {subject : Subject} {name : List Char} (proper : Proper name)
    (named : subject.fileName.toList = name ++ extension) : check exemptions subject = [] := by
  obtain ⟨c, rest, rfl, upper, bare⟩ := proper
  have starts : startsUpper (c :: rest) = true := upper
  have allowed : hasAllowedCharacters (c :: rest ++ extension) = true := by
    rw [hasAllowedCharacters, stem?_append]
    simp only [List.isEmpty_cons, Bool.not_false, Bool.true_and, List.all_eq_true]
    intro d member
    have kept := bare d member
    rw [Text.isBare] at kept
    rw [isAllowed, kept, Bool.true_or]
  have unbroken : hasSeparator (c :: rest) = false := by
    rw [hasSeparator, List.any_eq_false]
    intro d member
    rw [Text.isWordSeparator_of_isBare (bare d member)]
    exact Bool.false_ne_true
  simp only [check, named, base_append, starts, allowed, unbroken]
  simp

theorem toList_suggestion (fileName : String) :
    (suggestion fileName).toList = Text.capitals true (base fileName.toList) ++ extension := by
  rw [suggestion, String.toList_append, Text.toList_pascalCase, String.toList_ofList]
  rfl

theorem Repairable.isName {fileName : String} (repairable : Repairable (base fileName.toList)) :
    Path.IsName (suggestion fileName) := by
  obtain ⟨c, rest, same, upper, bare⟩ := repairable.proper
  have spelled := toList_suggestion fileName
  have long : (suggestion fileName).toList.length = rest.length + 4 := by
    simp [spelled, same, extension]
  rw [Path.isName_bytes_iff]
  refine ⟨?_, ?_, ?_, ?_⟩
  -- three cases of a name that is too short
  · intro none
    simp [none] at long
  · intro dot
    simp [dot] at long
  · intro dots
    simp [dots] at long
  · rw [spelled]
    intro slash
    rcases List.mem_append.mp slash with inside | behind
    · exact absurd (bare _ inside) (by decide)
    · exact absurd behind (by decide)

/-- A file under the name that is suggested for a repairable one has nothing wrong with its name, whatever names are
exempt; and the suggestion does name a file, in every directory. -/
theorem check_suggestion (exemptions : List String) (fileName : String)
    (repairable : Repairable (base fileName.toList)) :
    (∀ (read : Reader) (subject : Subject), subject.fileName = suggestion fileName →
        (rule exemptions).check read subject = .findings []) ∧
      ∀ directory : Path, let path := directory.join (suggestion fileName)
        path.fileName? = some (suggestion fileName : Text.Bytes) ∧ path.shownName = suggestion fileName := by
  constructor
  · intro read subject named
    have spelled : subject.fileName.toList = Text.capitals true (base fileName.toList) ++ extension := by
      rw [named, toList_suggestion]
    exact congrArg Verdict.findings (check_of_proper exemptions repairable.proper spelled)
  · intro directory path
    obtain ⟨_, _, steps⟩ := Path.join_name directory repairable.isName
    have steps : path.steps = directory.steps ++ [.name (suggestion fileName)] := steps
    have named : path.fileName? = some (suggestion fileName : Text.Bytes) := by
      rw [Path.fileName?, Path.getLast?_components (by simp [steps]), steps, List.getLast?_concat]
    exact ⟨named, by rw [Path.shownName, named, Option.map_some, Option.getD_some, Text.decodeLossy_bytes]⟩

/-- Leading, trailing and doubled separators, a dot in a word, and the extension twice. -/
theorem check_suggestion_separated :
    suggestion "--uSER__pro.file-2-.ts.ts" = "UserPro.file2.ts.ts" ∧
      (rule ["x"]).check (fun _ => .ok "") (.ofPath "src/UserPro.file2.ts.ts") = .findings [] := by
  have spelled : suggestion "--uSER__pro.file-2-.ts.ts" = "UserPro.file2.ts.ts" := by decide +kernel
  have repairable : Repairable (base "--uSER__pro.file-2-.ts.ts".toList) :=
    ⟨List.forall_iff_forall_mem.mp (by decide +kernel), "--".toList, 'u', "SER__pro.file-2-.ts".toList, by decide,
      List.forall_iff_forall_mem.mp (by decide), by decide⟩
  refine ⟨spelled, (check_suggestion ["x"] "--uSER__pro.file-2-.ts.ts" repairable).1 _ _ ?_⟩
  rw [spelled]
  decide +kernel

end FileNaming
end HouseStyle
