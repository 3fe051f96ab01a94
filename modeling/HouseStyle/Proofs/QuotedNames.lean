import HouseStyle.Proofs.ChangedFiles
import HouseStyle.Proofs.EncodedText
import HouseStyle.Proofs.Positions
import Mathlib.Data.List.DropRight

/-! Names as version control prints them, and as they are read.

A listing has one name a line. A name of printable ASCII characters other than quotes and backslashes stands there as
it is; every other name is put in quotes, with an escape for each byte that would not do. The reader takes a line for
a name, without the blanks around it, and knows nothing of quotes. So a name is read as itself just if it is not
quoted and neither begins nor ends with a blank; a quoted one is read as it is written.
-/

set_option autoImplicit false
namespace HouseStyle

/-! ASCII bytes as text -/

namespace Text

def asciiChar (b : UInt8) : Char := Char.ofNat b.toNat

theorem forall_byte {motive : UInt8 → Prop} (each : ∀ n < 256, motive (UInt8.ofNat n)) (b : UInt8) : motive b := by
  simpa using each b.toNat b.toNat_lt

theorem characters_of_ascii {content : Bytes} (ascii : ∀ b ∈ content, b < 0x80) :
    Utf8.characters content = content.map fun b => some (asciiChar b) := by
  induction content with
  | nil => rw [Utf8.characters, List.map_nil]
  | cons b rest ih =>
    rw [Utf8.characters_ascii (ascii b List.mem_cons_self), List.map_cons,
      ih fun other later => ascii other (List.mem_cons_of_mem b later)]
    rfl

theorem toList_decodeLossy_of_ascii {content : Bytes} (ascii : ∀ b ∈ content, b < 0x80) :
    (decodeLossy content).toList = content.map asciiChar := by
  rw [decodeLossy, String.toList_ofList, characters_of_ascii ascii, List.map_map]
  rfl

theorem encode_map_asciiChar {content : Bytes} (ascii : ∀ b ∈ content, b < 0x80) :
    encode (content.map asciiChar) = content := by
  induction content with
  | nil => rfl
  | cons b rest ih =>
    have later := ih fun other member => ascii other (List.mem_cons_of_mem b member)
    rw [encode] at later ⊢
    rw [List.map_cons, List.flatMap_cons, later, asciiChar, Utf8.spelling_ascii (ascii b List.mem_cons_self)]
    rfl

/-! Lines -/

theorem filledLines_append (line rest : List Char) :
    filledLines (line ++ '\n' :: rest) = filledLines line ++ filledLines rest := by
  rw [filledLines, splitAt_append, List.map_append, List.filter_append]
  rfl

theorem filledLines_of_free {line : List Char} (free : '\n' ∉ line) :
    filledLines line = if trim line = [] then [] else [trim line] := by
  rw [filledLines, splitAt_of_free free, List.map_singleton, List.filter_cons, List.filter_nil]
  cases trim line <;> rfl

end Text

namespace Git

open Text (Bytes asciiChar)

/-! Listings -/

def space : UInt8 := 0x20

def quote : UInt8 := 0x22

def backslash : UInt8 := 0x5C

/-- An ASCII character that is no control character. -/
def isPrintable (b : UInt8) : Bool := 0x20 ≤ b && b < 0x7F

/-- A byte that a listing prints as it is. -/
def isPlain (b : UInt8) : Bool := isPrintable b && b != quote && b != backslash

/-- The bytes with a letter of their own after the backslash. -/
def escapeLetters : List (UInt8 × Char) :=
  [(0x07, 'a'), (0x08, 'b'), (0x09, 't'), (0x0A, 'n'), (0x0B, 'v'), (0x0C, 'f'), (0x0D, 'r'), (0x22, '"'),
    (0x5C, '\\')]

/-- A plain byte, or a backslash and a letter or three octal digits. -/
def escape (b : UInt8) : Bytes :=
  if isPlain b then [b]
  else
    match escapeLetters.lookup b with
    | some letter => [backslash, letter.toUInt8]
    | none => [backslash, 0x30 + b / 64, 0x30 + b / 8 % 8, 0x30 + b % 8]

def quoted (name : Bytes) : Bytes := quote :: (name.flatMap escape ++ [quote])

/-- The name as a listing has it: in quotes, unless all of it is plain. -/
def written (name : Bytes) : Bytes := if name.all isPlain then name else quoted name

/-- The output for a list of changed files. -/
def listing (files : List Bytes) : Bytes := Text.ended (files.map written)

example : listing [Text.bytes "src/A.ts", Text.bytes "a \"b\"\t.ts", Text.bytes "é.ts"] =
    Text.bytes "src/A.ts\n\"a \\\"b\\\"\\t.ts\"\n\"\\303\\251.ts\"\n" := by decide +kernel

theorem isPrintable_of_isPlain {b : UInt8} (plain : isPlain b = true) : isPrintable b = true := by
  simp only [isPlain, Bool.and_eq_true] at plain
  exact plain.1.1

theorem isPrintable_of_mem_escape {b c : UInt8} (member : c ∈ escape b) : isPrintable c = true := by
  have all : ∀ b, (escape b).all isPrintable = true :=
    Text.forall_byte (motive := fun b => (escape b).all isPrintable = true) (by decide +kernel)
  exact List.all_eq_true.mp (all b) c member

theorem isPrintable_of_mem_quoted {name : Bytes} {b : UInt8} (member : b ∈ quoted name) : isPrintable b = true := by
  rw [quoted, List.mem_cons, List.mem_append, List.mem_singleton, List.mem_flatMap] at member
  rcases member with rfl | ⟨c, _, inside⟩ | rfl
  · decide
  · exact isPrintable_of_mem_escape inside
  · decide

theorem isPrintable_of_mem_written {name : Bytes} {b : UInt8} (member : b ∈ written name) : isPrintable b = true := by
  rw [written] at member
  split at member
  · next plain => exact isPrintable_of_isPlain (List.all_eq_true.mp plain b member)
  · exact isPrintable_of_mem_quoted member

/-! Printable lines -/

theorem lt_of_isPrintable {b : UInt8} (printable : isPrintable b = true) : b < 0x80 := by
  simp only [isPrintable, Bool.and_eq_true, decide_eq_true_eq] at printable
  exact UInt8.lt_trans printable.2 (by decide)

/-- Of all printable characters the space alone is blank, and none ends a line. -/
theorem isBlank_asciiChar {b : UInt8} (printable : isPrintable b = true) :
    Text.isBlank (asciiChar b) = (b == space) ∧ asciiChar b ≠ '\n' := by
  refine Text.forall_byte (motive := fun b => isPrintable b = true →
    Text.isBlank (asciiChar b) = (b == space) ∧ asciiChar b ≠ '\n') ?_ b printable
  decide +kernel

theorem newline_not_mem_line {line : Bytes} (printable : ∀ b ∈ line, isPrintable b = true) :
    '\n' ∉ line.map asciiChar := by
  intro member
  obtain ⟨b, inside, same⟩ := List.mem_map.mp member
  exact (isBlank_asciiChar (printable b inside)).2 same

/-- The line without the spaces at both ends. -/
def stripped (line : Bytes) : Bytes := (line.dropWhile (· == space)).rdropWhile (· == space)

theorem trimStart_line {line : Bytes} (printable : ∀ b ∈ line, isPrintable b = true) :
    Text.trimStart (line.map asciiChar) = (line.dropWhile (· == space)).map asciiChar := by
  induction line with
  | nil => rfl
  | cons b rest ih =>
    have later := ih fun other member => printable other (List.mem_cons_of_mem b member)
    rw [Text.trimStart] at later ⊢
    rw [List.map_cons, List.dropWhile_cons, List.dropWhile_cons, (isBlank_asciiChar (printable b List.mem_cons_self)).1]
    split
    · exact later
    · rfl

theorem trim_line {line : Bytes} (printable : ∀ b ∈ line, isPrintable b = true) :
    Text.trim (line.map asciiChar) = (stripped line).map asciiChar := by
  have still : ∀ b ∈ (line.dropWhile (· == space)).reverse, isPrintable b = true := by
    intro b member
    exact printable b ((List.dropWhile_sublist _).subset (List.mem_reverse.mp member))
  rw [Text.trim, trimStart_line printable, ← List.map_reverse, trimStart_line still, ← List.map_reverse]
  rfl

theorem mem_of_mem_stripped {line : Bytes} {b : UInt8} (member : b ∈ stripped line) : b ∈ line :=
  (List.dropWhile_sublist _).subset ((List.rdropWhile_prefix _ _).subset member)

theorem stripped_eq_self_iff (line : Bytes) :
    stripped line = line ↔ line.head? ≠ some space ∧ line.getLast? ≠ some space := by
  have front : line.dropWhile (· == space) = line ↔ line.head? ≠ some space := by
    cases line with
    | nil => simp
    | cons b rest => simp [List.dropWhile_eq_self_iff]
  have back : line.rdropWhile (· == space) = line ↔ line.getLast? ≠ some space := by
    rw [List.rdropWhile_eq_self_iff]
    cases line using List.reverseRecOn with
    | nil => simp
    | append_singleton rest b => simp
  constructor
  · intro whole
    -- neither end may lose anything, or the whole would be shorter
    have atBack := (List.rdropWhile_prefix (· == space) (l := line.dropWhile (· == space))).length_le
    have atFront := List.dropWhile_suffix (· == space) (l := line)
    have kept : line.dropWhile (· == space) = line := by
      apply atFront.eq_of_length_le
      rwa [← stripped, whole] at atBack
    rw [stripped, kept] at whole
    exact ⟨front.mp kept, back.mp whole⟩
  · rintro ⟨first, last⟩
    rw [stripped, front.mpr first, back.mpr last]

/-! What is read -/

/-- What is read for a file of a listing: a quoted name as it is written, any other without the spaces around it, and
nothing if that is all there is to it. -/
def heard? (name : Bytes) : Option Bytes :=
  if name.all isPlain then if stripped name = [] then none else some (stripped name)
  else some (quoted name)

theorem stripped_quoted (name : Bytes) : stripped (quoted name) = quoted name := by
  rw [stripped_eq_self_iff]
  constructor
  · rw [quoted, List.head?_cons]
    decide
  · rw [quoted, ← List.cons_append, List.getLast?_concat]
    decide

theorem heard?_eq (name : Bytes) :
    heard? name = if stripped (written name) = [] then none else some (stripped (written name)) := by
  rw [heard?, written]
  by_cases plain : name.all isPlain = true
  · rw [if_pos plain, if_pos plain]
  · rw [if_neg plain, if_neg plain, stripped_quoted, if_neg (show quoted name ≠ [] from List.cons_ne_nil _ _)]

theorem isPrintable_of_heard? {name read : Bytes} (heard : heard? name = some read) :
    ∀ b ∈ read, isPrintable b = true := by
  rw [heard?_eq, Option.ite_none_left_eq_some, Option.some.injEq] at heard
  obtain ⟨_, rfl⟩ := heard
  intro b member
  exact isPrintable_of_mem_written (mem_of_mem_stripped member)

theorem ascii_listing (files : List Bytes) : ∀ b ∈ listing files, b < 0x80 := by
  intro b member
  rw [listing, Text.ended, List.mem_flatMap] at member
  obtain ⟨line, listed, inside⟩ := member
  obtain ⟨name, _, rfl⟩ := List.mem_map.mp listed
  rw [List.mem_append, List.mem_singleton] at inside
  rcases inside with here | rfl
  · exact lt_of_isPrintable (isPrintable_of_mem_written here)
  · decide

theorem filledLines_listing (files : List Bytes) :
    Text.filledLines ((listing files).map asciiChar) = (files.filterMap heard?).map (·.map asciiChar) := by
  induction files with
  | nil => rfl
  | cons name rest ih =>
    have lines : (listing (name :: rest)).map asciiChar =
        (written name).map asciiChar ++ '\n' :: (listing rest).map asciiChar := by
      simp only [listing, Text.ended, List.map_cons, List.flatMap_cons, List.map_append, List.append_assoc]
      rfl
    have printable : ∀ b ∈ written name, isPrintable b = true := fun _ => isPrintable_of_mem_written
    rw [lines, Text.filledLines_append, ih, Text.filledLines_of_free (newline_not_mem_line printable),
      trim_line printable, List.filterMap_cons, heard?_eq]
    by_cases blank : stripped (written name) = []
    · rw [if_pos blank, blank]
      rfl
    · rw [if_neg blank, if_neg (mt List.map_eq_nil_iff.mp blank)]
      rfl

/-- The bytes of the paths that are read. -/
theorem bytes_names_listing (files : List Bytes) :
    (names (Text.decodeLossy (listing files))).map Path.bytes = files.filterMap heard? := by
  rw [names, Text.toList_decodeLossy_of_ascii (ascii_listing files), filledLines_listing, List.map_map, List.map_map]
  conv_rhs => rw [← List.map_id (files.filterMap heard?)]
  apply List.map_congr_left
  intro read member
  obtain ⟨name, _, heard⟩ := List.mem_filterMap.mp member
  simp only [Function.comp_apply, Path.ofText, Text.bytes, String.toList_ofList, id_eq]
  exact Text.encode_map_asciiChar fun b inside => lt_of_isPrintable (isPrintable_of_heard? heard b inside)

/-- A name that a listing has as it is, and that has no blank at either end. -/
structure Verbatim (name : Bytes) : Prop where
  filled : name ≠ []
  plain : ∀ b ∈ name, isPlain b = true
  first : name.head? ≠ some space
  last : name.getLast? ≠ some space

theorem length_escape_pos (b : UInt8) : 0 < (escape b).length := by
  rw [escape]
  split
  · exact Nat.zero_lt_one
  · split <;> exact Nat.zero_lt_succ _

theorem length_le_flatMap_escape (name : Bytes) : name.length ≤ (name.flatMap escape).length := by
  induction name with
  | nil => exact Nat.le_refl 0
  | cons b rest ih =>
    have some := length_escape_pos b
    rw [List.flatMap_cons, List.length_append, List.length_cons]
    omega

theorem quoted_ne (name : Bytes) : quoted name ≠ name := by
  intro same
  have long := congrArg List.length same
  have inside := length_le_flatMap_escape name
  rw [quoted, List.length_cons, List.length_append] at long
  omega

theorem heard?_eq_self_iff (name : Bytes) : heard? name = some name ↔ Verbatim name := by
  by_cases plain : name.all isPlain = true
  · rw [heard?, if_pos plain, Option.ite_none_left_eq_some, Option.some.injEq, stripped_eq_self_iff]
    constructor
    · rintro ⟨filled, ends⟩
      have whole := (stripped_eq_self_iff name).mpr ends
      exact ⟨whole ▸ filled, List.all_eq_true.mp plain, ends.1, ends.2⟩
    · intro verbatim
      have ends : name.head? ≠ some space ∧ name.getLast? ≠ some space := ⟨verbatim.first, verbatim.last⟩
      rw [(stripped_eq_self_iff name).mpr ends]
      exact ⟨verbatim.filled, ends⟩
  · rw [heard?, if_neg plain, Option.some.injEq]
    constructor
    · intro same
      exact absurd same (quoted_ne name)
    · intro verbatim
      exact absurd (List.all_eq_true.mpr verbatim.plain) plain

/-- Of the files of a listing each is read as what is heard of it, and the whole listing as the files themselves just
if every name is printed as it is and has no blank at either end. Every question about changes that is answered with
the listing is answered so. -/
theorem names_of_listing (files : List Bytes) :
    (names (Text.decodeLossy (listing files))).map Path.bytes = files.filterMap heard? ∧
      ((names (Text.decodeLossy (listing files))).map Path.bytes = files ↔ ∀ name ∈ files, Verbatim name) ∧
      ∀ (program : Program) (arguments : Arguments) (errors : Bytes) (calls : List Arguments),
        program ("diff" :: arguments ++ nameOptions) = .ok ⟨0, listing files, errors⟩ →
          ((changed program arguments).run calls).1 = .ok (names (Text.decodeLossy (listing files))) := by
  have heard := bytes_names_listing files
  refine ⟨heard, ?_, ?_⟩
  · have each : files.filterMap heard? = files.map id ↔ ∀ name ∈ files, heard? name = some name :=
      List.filterMap_eq_map_iff_forall_eq_some
    rw [List.map_id] at each
    rw [heard, each]
    exact forall₂_congr fun name _ => heard?_eq_self_iff name
  · intro program arguments errors calls ran
    have answered : printed? program ("diff" :: arguments ++ nameOptions) =
        some (names (Text.decodeLossy (listing files))) := by
      rw [printed?, ran]
      rfl
    rw [changed_of_printed arguments answered calls]

/-- A plain name, one with a letter beyond ASCII, one with spaces around it, and one that is a space. -/
theorem names_of_listing_unlike :
    let files := [Text.bytes "src/A.ts", Text.bytes "src/Über.ts", Text.bytes " b c.ts ", Text.bytes " "]
    let program : Program := fun _ => .ok ⟨0, listing files, []⟩
    ∃ paths, ((changed program ["--staged"]).run []).1 = .ok paths ∧
      paths.map Path.bytes =
        [Text.bytes "src/A.ts", Text.bytes "\"src/\\303\\234ber.ts\"", Text.bytes "b c.ts"] ∧
      paths.map Path.bytes ≠ files := by
  intro files program
  obtain ⟨heard, same_iff, answer⟩ := names_of_listing files
  have quotes : ¬ Verbatim (Text.bytes "src/Über.ts") :=
    fun verbatim => absurd (verbatim.plain 0xC3 (by decide +kernel)) (by decide)
  refine ⟨_, answer program ["--staged"] [] [] rfl, heard.trans (by decide +kernel), ?_⟩
  intro same
  exact quotes (same_iff.mp same (Text.bytes "src/Über.ts") (by simp [files]))

end Git
end HouseStyle
