import HouseStyle.Proofs.ControllerRoutes
import HouseStyle.Proofs.FileNames

/-! The names by which return types are judged.

A type that has no name of its own is judged by a tag: the words of its kind, or the keyword, in PascalCase. Apart
from the case of letters a tag is what it was made from without the separators, so it ends as its last word does, and
no primitive ends like that. Being a capital letter and further letters besides, no tag is ever rejected.
-/

set_option autoImplicit false
namespace HouseStyle

namespace Text

/-! Letters in either case -/

/-- The texts differ at most in the case of ASCII letters. -/
def SameLetters (first second : List Char) : Prop :=
  first.map asciiLower = second.map asciiLower

instance (first second : List Char) : Decidable (SameLetters first second) :=
  inferInstanceAs (Decidable (first.map asciiLower = second.map asciiLower))

theorem ascii_of_isAsciiLetter {c : Char} (letter : isAsciiLetter c = true) : c.toNat < 128 := by
  apply ascii_of_isBare
  simp [isBare, isAsciiAlphanumeric, letter]

theorem isWordSeparator_of_isAsciiLetter {c : Char} (letter : isAsciiLetter c = true) : isWordSeparator c = false := by
  apply isWordSeparator_of_isBare
  simp [isBare, isAsciiAlphanumeric, letter]

theorem isAsciiLetter_either_case {c : Char} (letter : isAsciiLetter c = true) :
    isAsciiLetter (asciiUpper c) = true ∧ isAsciiLetter (asciiLower c) = true := by
  refine forall_ascii (motive := fun c => isAsciiLetter c = true →
    isAsciiLetter (asciiUpper c) = true ∧ isAsciiLetter (asciiLower c) = true) ?_ (ascii_of_isAsciiLetter letter) letter
  decide

theorem asciiLower_either_case {c : Char} (ascii : c.toNat < 128) :
    asciiLower (asciiUpper c) = asciiLower c ∧ asciiLower (asciiLower c) = asciiLower c := by
  refine forall_ascii (motive := fun c => asciiLower (asciiUpper c) = asciiLower c ∧
    asciiLower (asciiLower c) = asciiLower c) ?_ ascii
  decide

/-- Apart from the case of letters, PascalCase takes the separators away and nothing else. -/
theorem map_asciiLower_capitals {text : List Char} (ascii : ∀ c ∈ text, c.toNat < 128) (first : Bool) :
    (capitals first text).map asciiLower = (text.filter (!isWordSeparator ·)).map asciiLower := by
  induction text generalizing first with
  | nil => rfl
  | cons c rest ih =>
    have here := ascii c List.mem_cons_self
    have later := ih fun d further => ascii d (List.mem_cons_of_mem c further)
    rw [capitals]
    by_cases separator : isWordSeparator c = true
    · rw [if_pos separator, later true, List.filter_cons_of_neg (by simp [separator])]
    · rw [if_neg separator, List.filter_cons_of_pos (by simp [separator]), List.map_append, later false, List.map_cons,
        upper_of_ascii here, lower_of_ascii here]
      cases first with
      | true => simp [(asciiLower_either_case here).1]
      | false => simp [(asciiLower_either_case here).2]

/-! Words put together -/

theorem joinWith_cons_concat (sep : Char) (piece : List Char) (rest : List (List Char)) (last : List Char) :
    joinWith sep (piece :: (rest ++ [last])) = piece ++ sep :: joinWith sep (rest ++ [last]) := by
  cases rest <;> rfl

theorem suffix_joinWith (sep : Char) (front : List (List Char)) (last : List Char) :
    last <:+ joinWith sep (front ++ [last]) := by
  induction front with
  | nil => exact List.suffix_rfl
  | cons piece rest ih =>
    rw [List.cons_append, joinWith_cons_concat]
    exact (ih.trans (List.suffix_cons sep _)).trans (List.suffix_append piece _)

theorem mem_joinWith {sep : Char} {pieces : List (List Char)} {c : Char} (member : c ∈ joinWith sep pieces) :
    c = sep ∨ ∃ piece ∈ pieces, c ∈ piece := by
  fun_induction joinWith sep pieces with
  | case1 => cases member
  | case2 piece => exact .inr ⟨piece, List.mem_singleton_self piece, member⟩
  | case3 piece pieces _ ih =>
    rcases List.mem_append.mp member with here | later
    · exact .inr ⟨piece, List.mem_cons_self, here⟩
    · rcases List.mem_cons.mp later with same | further
      · exact .inl same
      · rcases ih further with same | ⟨other, listed, inside⟩
        · exact .inl same
        · exact .inr ⟨other, List.mem_cons_of_mem piece listed, inside⟩

theorem prefix_joinWith (sep : Char) (piece : List Char) (pieces : List (List Char)) :
    piece <+: joinWith sep (piece :: pieces) := by
  cases pieces with
  | nil => exact List.prefix_rfl
  | cons next others => exact List.prefix_append piece _

end Text

namespace ControllerReturn

/-! What is rejected -/

/-- A capital letter, then letters and digits. -/
def IsPlainName (name : List Char) : Prop :=
  ∃ c rest, name = c :: rest ∧ Text.isAsciiUpper c = true ∧ ∀ d ∈ rest, Text.isAsciiAlphanumeric d = true

/-- A primitive in whatever case, or a name with nothing to speak for it. -/
def Unfit (name : List Char) : Prop :=
  (∃ word ∈ primitives, Text.SameLetters name word.toList) ∨
    (∀ ending ∈ ["Dto", "Response", "Entity", "[]"], ¬ending.toList <:+ name) ∧
      (∀ part ∈ ["Promise", "Array"], ¬part.toList <:+: name) ∧ ¬IsPlainName name

theorem isCapitalized_iff (name : List Char) : isCapitalized name = true ↔ IsPlainName name := by
  cases name with
  | nil => simp [isCapitalized, IsPlainName]
  | cons c rest => simp [isCapitalized, IsPlainName]

theorem isPrimitive_iff {name : String} :
    isPrimitive name = true ↔ ∃ word ∈ primitives, Text.SameLetters name.toList word.toList := by
  have small : ∀ word ∈ primitives, word.toList.map Text.asciiLower = word.toList := by decide
  rw [isPrimitive, List.contains_iff_mem]
  constructor
  · intro listed
    refine ⟨_, listed, ?_⟩
    rw [Text.SameLetters, small _ listed, String.toList_map]
  · rintro ⟨word, listed, same⟩
    rw [Text.SameLetters, small word listed] at same
    have equal : name.map Text.asciiLower = word := String.toList_injective (by rw [String.toList_map, same])
    rwa [equal]

theorem isValidReturn_eq_false_iff {name : String} : isValidReturn name = false ↔ Unfit name.toList := by
  rw [Unfit, ← isPrimitive_iff, ← isCapitalized_iff]
  simp only [isValidReturn, transferEndings, endsWith, mentions, Bool.and_eq_false_iff, Bool.not_eq_false',
    Bool.or_eq_false_iff, List.any_cons, List.any_nil, ← Text.occursIn_iff, ← List.isSuffixOf_iff_suffix,
    List.forall_mem_cons, List.not_mem_nil, false_imp_iff, implies_true, and_true, Bool.not_eq_true, Bool.or_false]
  apply or_congr_right
  constructor
  · rintro ⟨⟨⟨⟨endings, promise⟩, array⟩, brackets⟩, capitalized⟩
    exact ⟨⟨endings.1, endings.2.1, endings.2.2, brackets⟩, ⟨promise, array⟩, capitalized⟩
  · rintro ⟨⟨dto, response, entity, brackets⟩, ⟨promise, array⟩, capitalized⟩
    exact ⟨⟨⟨⟨⟨dto, response, entity⟩, promise⟩, array⟩, brackets⟩, capitalized⟩

/-! Tags -/

theorem isPrimitive_eq_false {name : String} {ending : List Char} (ends : ending <:+ name.toList.map Text.asciiLower)
    (apart : ∀ word ∈ primitives, ¬ending <:+ word.toList.map Text.asciiLower) : isPrimitive name = false := by
  rw [Bool.eq_false_iff, ne_eq, isPrimitive_iff]
  rintro ⟨word, listed, same⟩
  apply apart word listed
  rwa [← same]

theorem isValidReturn_of_isPlainName {name : String} (plain : IsPlainName name.toList) (ending : List Char)
    (ends : ending <:+ name.toList.map Text.asciiLower)
    (apart : ∀ word ∈ primitives, ¬ending <:+ word.toList.map Text.asciiLower) : isValidReturn name = true := by
  simp [isValidReturn, isPrimitive_eq_false ends apart, (isCapitalized_iff _).mpr plain]

theorem isPlainName_capitals {c : Char} {rest : List Char} (letter : Text.isAsciiLetter c = true)
    (others : ∀ d ∈ rest, Text.isAsciiLetter d = true ∨ Text.isWordSeparator d = true) :
    IsPlainName (Text.capitals true (c :: rest)) := by
  have ascii : ∀ d ∈ rest, d.toNat < 128 := by
    intro d inside
    rcases others d inside with letter | separator
    · exact Text.ascii_of_isAsciiLetter letter
    · exact Text.ascii_of_isWordSeparator separator
  refine ⟨Text.asciiUpper c, Text.capitals false rest, ?_, Text.isAsciiUpper_asciiUpper letter, ?_⟩
  · rw [Text.capitals, Text.isWordSeparator_of_isAsciiLetter letter,
      Text.upper_of_ascii (Text.ascii_of_isAsciiLetter letter)]
    rfl
  · intro d member
    obtain ⟨e, inside, kept, image⟩ := Text.exists_of_mem_capitals ascii member
    have cases := Text.isAsciiLetter_either_case ((others e inside).resolve_right (Bool.eq_false_iff.mp kept))
    rcases image with rfl | rfl
    · simp [Text.isAsciiAlphanumeric, cases.1]
    · simp [Text.isAsciiAlphanumeric, cases.2]

/-- Words of small ASCII letters with underscores between them. -/
structure Spells (kind : String) (words : List (List Char)) : Prop where
  joined : kind.toList = Text.joinWith '_' words
  filled : ∀ word ∈ words, word ≠ []
  small : ∀ word ∈ words, ∀ c ∈ word, Text.isAsciiLower c = true

namespace Spells

variable {kind : String} {words front : List (List Char)} {last : List Char}

theorem letter (spells : Spells kind words) {c : Char} (member : c ∈ kind.toList) :
    Text.isAsciiLetter c = true ∨ c = '_' := by
  rw [spells.joined] at member
  rcases Text.mem_joinWith member with same | ⟨word, listed, inside⟩
  · exact .inr same
  · left
    rw [Text.isAsciiLetter, spells.small word listed c inside, Bool.or_true]

theorem isPlainName (spells : Spells kind words) (some : words ≠ []) : IsPlainName (kindName kind).toList := by
  obtain ⟨first, others, rfl⟩ := List.exists_cons_of_ne_nil some
  obtain ⟨c, more, rfl⟩ := List.exists_cons_of_ne_nil (spells.filled first List.mem_cons_self)
  obtain ⟨rest, begins⟩ := Text.prefix_joinWith '_' (c :: more) others
  have text : kind.toList = c :: (more ++ rest) := by rw [spells.joined, ← begins, List.cons_append]
  rw [kindName, Text.toList_pascalCase, text]
  apply isPlainName_capitals
  · rw [Text.isAsciiLetter, spells.small _ List.mem_cons_self c List.mem_cons_self, Bool.or_true]
  · intro d inside
    rcases spells.letter (text ▸ List.mem_cons_of_mem c inside) with letter | rfl
    · exact .inl letter
    · exact .inr rfl

/-- The tag of a kind ends as the last of its words does. -/
theorem suffix (spells : Spells kind (front ++ [last])) :
    last.map Text.asciiLower <:+ (kindName kind).toList.map Text.asciiLower := by
  have ascii : ∀ c ∈ kind.toList, c.toNat < 128 := by
    intro c member
    rcases spells.letter member with letter | rfl
    · exact Text.ascii_of_isAsciiLetter letter
    · decide
  have kept : last.filter (!Text.isWordSeparator ·) = last := by
    rw [List.filter_eq_self]
    intro c inside
    have letter : Text.isAsciiLetter c = true := by
      rw [Text.isAsciiLetter, spells.small last (by simp) c inside, Bool.or_true]
    rw [Text.isWordSeparator_of_isAsciiLetter letter, Bool.not_false]
  have ends := Text.suffix_joinWith '_' front last
  rw [← spells.joined] at ends
  rw [kindName, Text.toList_pascalCase, Text.map_asciiLower_capitals ascii]
  apply List.IsSuffix.map
  have filtered := ends.filter (!Text.isWordSeparator ·)
  rwa [kept] at filtered

theorem isValidReturn (spells : Spells kind (front ++ [last]))
    (apart : ∀ word ∈ primitives, ¬last.map Text.asciiLower <:+ word.toList.map Text.asciiLower) :
    isValidReturn (kindName kind) = true :=
  isValidReturn_of_isPlainName (spells.isPlainName (by simp)) _ spells.suffix apart

end Spells

theorem isValidReturn_keyword {word : String} (some : word.toList ≠ [])
    (letters : ∀ c ∈ word.toList, Text.isAsciiLetter c = true) :
    isValidReturn (Text.pascalCase word ++ "Keyword") = true := by
  obtain ⟨c, rest, text⟩ := List.exists_cons_of_ne_nil some
  have spelled : (Text.pascalCase word ++ "Keyword").toList = Text.capitals true (c :: rest) ++ "Keyword".toList := by
    rw [String.toList_append, Text.toList_pascalCase, text]
  rw [text, List.forall_mem_cons] at letters
  obtain ⟨first, others, same, upper, plain⟩ := isPlainName_capitals letters.1 fun d inside => .inl (letters.2 d inside)
  refine isValidReturn_of_isPlainName ?_ "keyword".toList ?_ ?_
  · refine ⟨first, others ++ "Keyword".toList, by rw [spelled, same, List.cons_append], upper, ?_⟩
    intro d inside
    rcases List.mem_append.mp inside with early | late
    · exact plain d early
    · exact List.all_eq_true.mp (by decide : "Keyword".toList.all Text.isAsciiAlphanumeric = true) d late
  · rw [spelled, List.map_append]
    exact List.suffix_append _ _
  · decide

/-! Annotations -/

structure Gives (declared type : Node) : Prop where
  kind : declared.kind = "type_annotation"
  first : declared.firstPart? = some type

/-- An annotation that is judged by a tag: it is no plain one, or it gives a keyword, or it gives a type that is put
together from others. -/
inductive Composite (tree : Tree) (declared : Node) : Prop where
  | annotation {front : List (List Char)} : declared.kind ≠ "type_annotation" →
      Spells declared.kind (front ++ ["annotation".toList]) → Composite tree declared
  | keyword {type : Node} : Gives declared type → type.kind = "predefined_type" → (tree.text type).toList ≠ [] →
      (∀ c ∈ (tree.text type).toList, Text.isAsciiLetter c = true) → tree.text type ∉ primitives →
      Composite tree declared
  | shape {type : Node} {front : List (List Char)} {last : String} : Gives declared type →
      Spells type.kind (front ++ [last.toList]) → last ∈ ["type", "query"] →
      type.kind ∉ ["predefined_type", "array_type", "generic_type"] → Composite tree declared

/-- The type is a name, alone or with a path or with arguments. -/
inductive Named (tree : Tree) (type : Node) : String → Prop where
  | alone : type.kind = "type_identifier" → Named tree type (tree.text type)
  | within {name : Node} : type.kind ∈ ["generic_type", "nested_type_identifier"] → type.child? "name" = some name →
      Named tree type (tree.text name)

section
variable {tree : Tree} {declared type : Node}

theorem Gives.returnName_of_named (gives : Gives declared type) {name : String} (named : Named tree type name) :
    returnName tree declared = name := by
  cases named with
  | alone kind => simp [returnName, gives.kind, gives.first, kind]
  | within kinds found =>
    simp only [List.mem_cons, List.not_mem_nil, or_false] at kinds
    rcases kinds with kind | kind
    · simp [returnName, gives.kind, gives.first, kind, found]
    · simp [returnName, gives.kind, gives.first, kind, found]

theorem Gives.returnName_of_keyword (gives : Gives declared type) (kind : type.kind = "predefined_type") :
    returnName tree declared =
      if tree.text type ∈ primitives then tree.text type else Text.pascalCase (tree.text type) ++ "Keyword" := by
  simp [returnName, gives.kind, gives.first, kind]

theorem Gives.returnName_of_array (gives : Gives declared type) (kind : type.kind = "array_type") :
    returnName tree declared = tree.text type := by
  simp [returnName, gives.kind, gives.first, kind]

theorem Gives.returnName_of_other (gives : Gives declared type) (other : type.kind ∉
    ["type_identifier", "array_type", "predefined_type", "generic_type", "nested_type_identifier"]) :
    returnName tree declared = kindName type.kind := by
  simp only [List.mem_cons, List.not_mem_nil, or_false, not_or] at other
  simp only [returnName, gives.kind, gives.first]
  split <;> simp_all

/-- A kind that ends in one of the words of a composite is none of the kinds that are named. -/
theorem Spells.kind_ne {front : List (List Char)} {last : String} (spells : Spells type.kind (front ++ [last.toList]))
    (ending : last ∈ ["type", "query"]) : type.kind ≠ "type_identifier" ∧ type.kind ≠ "nested_type_identifier" := by
  have ends : last.toList <:+ type.kind.toList := spells.joined ▸ Text.suffix_joinWith '_' front last.toList
  constructor
  · intro kind
    rw [kind] at ends
    exact (by decide : ∀ word ∈ ["type", "query"], ¬word.toList <:+ "type_identifier".toList) last ending ends
  · intro kind
    rw [kind] at ends
    exact (by decide : ∀ word ∈ ["type", "query"], ¬word.toList <:+ "nested_type_identifier".toList) last ending ends

theorem Composite.isValidReturn (composite : Composite tree declared) :
    isValidReturn (returnName tree declared) = true := by
  cases composite with
  | annotation other spells =>
    have tagged : returnName tree declared = kindName declared.kind := by simp [returnName, other]
    rw [tagged]
    exact spells.isValidReturn (by decide)
  | keyword gives kind some letters other =>
    rw [gives.returnName_of_keyword kind, if_neg other]
    exact isValidReturn_keyword some letters
  | shape gives spells ending others =>
    rw [gives.returnName_of_other]
    · apply spells.isValidReturn
      exact (by decide : ∀ last ∈ ["type", "query"], ∀ word ∈ primitives,
        ¬last.toList.map Text.asciiLower <:+ word.toList.map Text.asciiLower) _ ending
    · have kinds := spells.kind_ne ending
      simp only [List.mem_cons, List.not_mem_nil, or_false, not_or] at others ⊢
      exact ⟨kinds.1, others.2.1, others.1, others.2.2, kinds.2⟩

end

/-- Composite types and keywords other than the primitives are never rejected, and the primitives always are. A named
type is rejected just if its name is unfit. -/
theorem returnName_judged (tree : Tree) (declared : Node) :
    (Composite tree declared → isValidReturn (returnName tree declared) = true) ∧
      ∀ type, Gives declared type →
        (type.kind = "predefined_type" → tree.text type ∈ primitives →
          isValidReturn (returnName tree declared) = false) ∧
        ∀ name, Named tree type name → (isValidReturn (returnName tree declared) = false ↔ Unfit name.toList) := by
  refine ⟨Composite.isValidReturn, ?_⟩
  intro type gives
  constructor
  · intro kind primitive
    rw [gives.returnName_of_keyword kind, if_pos primitive, isValidReturn_eq_false_iff]
    exact .inl ⟨_, primitive, rfl⟩
  · intro name named
    rw [gives.returnName_of_named named, isValidReturn_eq_false_iff]

/-- An annotation that begins with a comment and gives a type of the kind. -/
def annotationOf (kind : String) (start stop : Nat) : Node :=
  .mk ⟨0, "type_annotation", some "return_type", true, false, 0, stop⟩
    [.mk ⟨1, "comment", none, true, true, 1, start⟩ [], .mk ⟨2, kind, none, true, false, start, stop⟩ []]

/-- A kind of three words, a keyword that differs from a primitive by its case alone, and a name that does so too. -/
theorem returnName_judged_by_case :
    isValidReturn (returnName ⟨":/**/`a`", annotationOf "template_literal_type" 5 8⟩
        (annotationOf "template_literal_type" 5 8)) = true ∧
      isValidReturn (returnName ⟨":/**/Any", annotationOf "predefined_type" 5 8⟩
        (annotationOf "predefined_type" 5 8)) = true ∧
      isValidReturn (returnName ⟨":/**/Any", annotationOf "type_identifier" 5 8⟩
        (annotationOf "type_identifier" 5 8)) = false := by
  refine ⟨?_, ?_, ?_⟩
  · apply (returnName_judged _ _).1
    have gives : Gives (annotationOf "template_literal_type" 5 8)
        (.mk ⟨2, "template_literal_type", none, true, false, 5, 8⟩ []) := ⟨rfl, rfl⟩
    have small : ∀ word ∈ ["template".toList, "literal".toList] ++ ["type".toList],
        word.all Text.isAsciiLower = true := by decide
    have spells : Spells "template_literal_type" (["template".toList, "literal".toList] ++ ["type".toList]) :=
      ⟨by decide, by decide, fun word listed => List.all_eq_true.mp (small word listed)⟩
    exact .shape gives spells (by decide) (by decide)
  · apply (returnName_judged _ _).1
    have gives : Gives (annotationOf "predefined_type" 5 8)
        (.mk ⟨2, "predefined_type", none, true, false, 5, 8⟩ []) := ⟨rfl, rfl⟩
    exact .keyword gives rfl (by decide) (List.all_eq_true.mp (by decide)) (by decide)
  · apply (((returnName_judged _ _).2 _ ⟨rfl, rfl⟩).2 _ (.alone rfl)).mpr
    exact .inl ⟨"any", by decide, by decide⟩

end ControllerReturn
end HouseStyle
