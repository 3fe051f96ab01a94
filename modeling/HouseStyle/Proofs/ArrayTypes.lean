import HouseStyle.Proofs.ReturnNames

/-! Return types that are arrays.

An array type is judged by its text with all that stands between its tokens. A word has no blank and no slash in it,
so it occurs in the text just if it occurs in the element type or in a comment; and the text ends with both brackets
only if nothing stands between them. Hence a blank between the brackets makes an array unfit, and the mere mention of
a promise in a comment makes it one.
-/

set_option autoImplicit false
namespace HouseStyle

namespace Text

/-- A word that cannot go on where the second text begins lies in one of both. -/
theorem infix_append_iff_of_apart {word first second : List Char} (apart : ∀ c ∈ second.head?, c ∉ word) :
    word <:+: first ++ second ↔ word <:+: first ∨ word <:+: second := by
  rw [List.infix_append_iff_ne_nil]
  constructor
  · rintro (early | late | ⟨front, back, _, filled, rfl, _, begins⟩)
    · exact .inl early
    · exact .inr late
    · obtain ⟨c, more, rfl⟩ := List.exists_cons_of_ne_nil filled
      obtain ⟨rest, rfl⟩ := begins
      exact absurd (List.mem_append_right front List.mem_cons_self) (apart c rfl)
  · rintro (early | late)
    · exact .inl early
    · exact .inr (.inl late)

theorem infix_cons_iff_of_not_mem {word text : List Char} {c : Char} (filled : word ≠ []) (other : c ∉ word) :
    word <:+: c :: text ↔ word <:+: text := by
  rw [List.infix_cons_iff, or_iff_right]
  obtain ⟨d, rest, rfl⟩ := List.exists_cons_of_ne_nil filled
  intro begins
  rw [List.cons_prefix_cons] at begins
  exact other (begins.1 ▸ List.mem_cons_self)

end Text

namespace TypeScript

/-! Blanks and comments -/

/-- Blanks and comments, of which one runs to the end of its line and the other to the first mark that ends it. -/
inductive IsTrivia : Chars → Prop where
  | nil : IsTrivia []
  | space {c : Char} {rest : Chars} : isSpace c = true → IsTrivia rest → IsTrivia (c :: rest)
  | line {text rest : Chars} {c : Char} : (∀ d ∈ text, endsLine d = false) → endsLine c = true → IsTrivia rest →
      IsTrivia ('/' :: '/' :: text ++ c :: rest)
  | block {text rest : Chars} : ¬['*', '/'] <:+: text → IsTrivia rest →
      IsTrivia ('/' :: '*' :: text ++ '*' :: '/' :: rest)

/-- The characters that trivia begin and end with. -/
def IsEdge (c : Char) : Prop := isSpace c = true ∨ c = '/'

theorem isEdge_of_endsLine {c : Char} (ends : endsLine c = true) : IsEdge c := by
  left
  simp only [endsLine, Bool.or_eq_true, beq_iff_eq] at ends
  rcases ends with ((rfl | rfl) | code) | code
  · decide
  · decide
  · simp [isSpace, code]
  · simp [isSpace, code]

theorem not_isEdge_of_isAsciiLetter {c : Char} (letter : Text.isAsciiLetter c = true) : ¬IsEdge c := by
  rintro (space | rfl)
  · simp only [Text.isAsciiLetter, Bool.or_eq_true, Text.isAsciiUpper_iff, Text.isAsciiLower_iff] at letter
    simp only [isSpace, Bool.or_eq_true, Bool.and_eq_true, decide_eq_true_eq, beq_iff_eq] at space
    omega
  · cases letter

namespace IsTrivia

variable {text : Chars}

theorem head (trivia : IsTrivia text) {c : Char} (first : text.head? = some c) : IsEdge c := by
  cases trivia with
  | nil => cases first
  | space space _ =>
    cases first
    exact .inl space
  | line _ _ _ =>
    cases first
    exact .inr rfl
  | block _ _ =>
    cases first
    exact .inr rfl

theorem last (trivia : IsTrivia text) {c : Char} (final : text.getLast? = some c) : IsEdge c := by
  -- the last character is that of the rest, if there is any
  have behind : ∀ (front : Chars) {rest : Chars} {d : Char}, IsEdge d → (rest.getLast? = some c → IsEdge c) →
      (front ++ d :: rest).getLast? = some c → IsEdge c := by
    intro front rest d edge later final
    rw [List.getLast?_append_cons, List.getLast?_cons] at final
    cases found : rest.getLast? with
    | none =>
      rw [found] at final
      cases final
      exact edge
    | some e =>
      rw [found] at final
      cases final
      exact later found
  induction trivia with
  | nil => cases final
  | space space _ ih => exact behind [] (.inl space) ih final
  | line _ ends _ ih => exact behind _ (isEdge_of_endsLine ends) ih final
  | block _ _ ih =>
    rw [List.append_cons] at final
    exact behind _ (.inr rfl) ih final

end IsTrivia

end TypeScript

namespace ControllerReturn

open TypeScript (IsTrivia)

/-! The text of an array type -/

/-- The element type and the brackets, with what stands before and between them. -/
def arrayText (element gap inside : List Char) : List Char := element ++ gap ++ '[' :: inside ++ [']']

section
variable {element gap inside : List Char}

/-- A word lies in the element type or in a comment. -/
theorem infix_arrayText_iff (between : IsTrivia gap) {word : List Char} (filled : word ≠ [])
    (letters : word.all Text.isAsciiLetter = true) :
    word <:+: arrayText element gap inside ↔ ∃ piece ∈ [element, gap, inside], word <:+: piece := by
  have mark : ∀ c, Text.isAsciiLetter c = false → c ∉ word := by
    intro c other inside
    rw [List.all_eq_true.mp letters c inside] at other
    cases other
  have edge : ∀ c, TypeScript.IsEdge c → c ∉ word :=
    fun c edge inside => TypeScript.not_isEdge_of_isAsciiLetter (List.all_eq_true.mp letters c inside) edge
  have opening : ∀ c ∈ (gap ++ '[' :: (inside ++ [']'])).head?, c ∉ word := by
    intro c first
    rw [List.head?_append] at first
    cases found : gap.head? with
    | none =>
      rw [found] at first
      cases first
      exact mark '[' rfl
    | some d =>
      rw [found] at first
      cases first
      exact edge c (between.head found)
  have closing : ∀ c ∈ [']'].head?, c ∉ word := by
    intro c first
    cases first
    exact mark ']' rfl
  have assoc : arrayText element gap inside = element ++ (gap ++ '[' :: (inside ++ [']'])) := by simp [arrayText]
  rw [assoc, Text.infix_append_iff_of_apart opening,
    Text.infix_append_iff_of_apart (fun c first => by cases first; exact mark '[' rfl),
    Text.infix_cons_iff_of_not_mem filled (mark '[' rfl), Text.infix_append_iff_of_apart closing,
    Text.infix_cons_iff_of_not_mem filled (mark ']' rfl), List.infix_nil, or_iff_left filled]
  simp

theorem bracket_mem_arrayText (element gap inside : List Char) : '[' ∈ arrayText element gap inside := by simp [arrayText]

theorem not_isPlainName_arrayText : ¬IsPlainName (arrayText element gap inside) := by
  rintro ⟨c, rest, text, upper, plain⟩
  have member := bracket_mem_arrayText element gap inside
  rw [text] at member
  rcases List.mem_cons.mp member with rfl | later
  · cases upper
  · cases plain '[' later

theorem not_sameLetters_arrayText {word : String} (primitive : word ∈ primitives) :
    ¬Text.SameLetters (arrayText element gap inside) word.toList := by
  intro same
  have member := List.mem_map_of_mem (f := Text.asciiLower)
    (bracket_mem_arrayText element gap inside)
  rw [same] at member
  exact (by decide : ∀ word ∈ primitives, '[' ∉ word.toList.map Text.asciiLower) word primitive member

theorem suffix_arrayText_iff {ending : List Char} {c : Char} :
    ending ++ [c] <:+ arrayText element gap inside ↔ c = ']' ∧ ending <:+ element ++ gap ++ '[' :: inside := by
  rw [arrayText, List.suffix_concat_iff]
  simp [and_comm]

/-- The text ends with both brackets just if nothing stands between them. -/
theorem brackets_suffix_iff (element gap : List Char) (within : IsTrivia inside) :
    ['[', ']'] <:+ arrayText element gap inside ↔ inside = [] := by
  rw [← List.singleton_append, suffix_arrayText_iff, eq_self, true_and, List.singleton_suffix_iff_getLast?_eq_some,
    List.getLast?_append_cons, List.getLast?_cons, Option.some.injEq]
  cases found : inside.getLast? with
  | none => simpa using found
  | some c =>
    have other : c ≠ '[' := by
      rintro rfl
      rcases within.last found with space | slash
      · cases space
      · cases slash
    have filled : inside ≠ [] := by
      rintro rfl
      cases found
    simp [other, filled]

/-- Of the endings that speak for a name an array can have but its brackets. -/
theorem no_ending_arrayText_iff (within : IsTrivia inside) :
    (∀ ending ∈ ["Dto", "Response", "Entity", "[]"], ¬ending.toList <:+ arrayText element gap inside) ↔
      inside ≠ [] := by
  have letter : ∀ (front : List Char) {c : Char}, c ≠ ']' → ¬front ++ [c] <:+ arrayText element gap inside :=
    fun _ _ other ends => other (suffix_arrayText_iff.mp ends).1
  have dto := letter "Dt".toList (by decide : 'o' ≠ ']')
  have response := letter "Respons".toList (by decide : 'e' ≠ ']')
  have entity := letter "Entit".toList (by decide : 'y' ≠ ']')
  rw [ne_eq, ← brackets_suffix_iff element gap within]
  simp only [List.forall_mem_cons, List.not_mem_nil, false_imp_iff, implies_true, and_true]
  exact ⟨fun none => none.2.2.2, fun last => ⟨dto, response, entity, last⟩⟩

/-- Arrays are rejected when something stands between their brackets and nothing is said of a promise or an array. -/
theorem isValidReturn_array {name : String} (spelled : name.toList = arrayText element gap inside)
    (between : IsTrivia gap) (within : IsTrivia inside) :
    isValidReturn name = false ↔
      inside ≠ [] ∧ ∀ word ∈ ["Promise", "Array"], ∀ piece ∈ [element, gap, inside], ¬word.toList <:+: piece := by
  have words : ∀ word ∈ ["Promise", "Array"], ¬word.toList <:+: arrayText element gap inside ↔
      ∀ piece ∈ [element, gap, inside], ¬word.toList <:+: piece := by
    intro word listed
    have filled := (by decide : ∀ word ∈ ["Promise", "Array"], word.toList ≠ []) word listed
    have letters := (by decide : ∀ word ∈ ["Promise", "Array"], word.toList.all Text.isAsciiLetter = true) word listed
    rw [infix_arrayText_iff between filled letters]
    simp
  rw [isValidReturn_eq_false_iff, spelled, Unfit, or_iff_right, no_ending_arrayText_iff within,
    and_iff_left not_isPlainName_arrayText]
  · exact and_congr_right fun _ => forall₂_congr words
  · rintro ⟨word, primitive, same⟩
    exact not_sameLetters_arrayText primitive same

end

/-! Routes that return arrays -/

structure ReturnsArray (tree : Tree) (r : Route) (declared : Node) (element gap inside : List Char) : Prop where
  stands : r.Stands tree
  declares : r.method.node.child? "return_type" = some declared
  array : ∃ type, Gives declared type ∧ type.kind = "array_type" ∧
    (tree.text type).toList = arrayText element gap inside
  between : IsTrivia gap
  within : IsTrivia inside

def invalidAt (subject : Subject) (tree : Tree) (r : Route) (declared : Node) : Finding :=
  findingAt subject tree declared .error (invalidMessage (tree.text r.name) (returnName tree declared))

def unmarkedAt (subject : Subject) (tree : Tree) (r : Route) : Finding :=
  findingAt subject tree r.method.node .warning (asyncMessage (tree.text r.name))

section
variable {tree : Tree} {r : Route} {declared : Node} {element gap inside : List Char}

theorem ReturnsArray.toList_returnName (array : ReturnsArray tree r declared element gap inside) :
    (returnName tree declared).toList = arrayText element gap inside := by
  obtain ⟨type, gives, kind, spelled⟩ := array.array
  rw [gives.returnName_of_array kind, spelled]

theorem ReturnsArray.mentions_promise (array : ReturnsArray tree r declared element gap inside) :
    mentions (returnName tree declared) "Promise" = true ↔
      ∃ piece ∈ [element, gap, inside], "Promise".toList <:+: piece := by
  rw [mentions, Text.occursIn_iff, array.toList_returnName]
  exact infix_arrayText_iff array.between (by decide) (by decide)

/-- What is said about a route is said in its place among all findings. -/
theorem Route.Stands.findings_infix (subject : Subject) (distinct : tree.root.ids.Nodup) (stands : r.Stands tree) :
    r.findings subject tree <:+: checkTree subject tree := by
  obtain ⟨front, back, listed⟩ := List.append_of_mem (Route.mem_ofTree.mpr stands)
  refine ⟨front.flatMap (Route.findings subject tree), back.flatMap (Route.findings subject tree), ?_⟩
  rw [Route.checkTree_eq subject distinct, listed, List.flatMap_append, List.flatMap_cons, List.append_assoc]

theorem ReturnsArray.findings_eq (subject : Subject) (array : ReturnsArray tree r declared element gap inside) :
    ∃ unfit unmarked, r.findings subject tree = unfit ++ unmarked ∧
      (invalidAt subject tree r declared).GivenWhen (inside ≠ [] ∧
        ∀ word ∈ ["Promise", "Array"], ∀ piece ∈ [element, gap, inside], ¬word.toList <:+: piece) unfit ∧
      (unmarkedAt subject tree r).GivenWhen ((∃ piece ∈ [element, gap, inside], "Promise".toList <:+: piece) ∧
        ∀ child ∈ r.method.node.children, child.kind ≠ "async") unmarked := by
  rw [Route.findings, checkReturn, array.declares]
  refine ⟨_, _, rfl, Finding.givenWhen_ite_nil _ ?_, Finding.givenWhen_ite _ ?_⟩
  · exact isValidReturn_array array.toList_returnName array.between array.within
  · rw [Bool.and_eq_true, array.mentions_promise]
    simp [Node.hasChild]

end

/-- A route that returns an array is said to return no such object if something stands between the brackets and
neither the element type nor a comment speaks of a promise or an array; and it is warned of if any of them speaks of a
promise and it is not marked. So it is judged by its element type alone just if nothing stands between the brackets or
such a word is there, and no comment alone makes a promise of it. -/
theorem array_judged_by_element_iff (subject : Subject) {tree : Tree} (distinct : tree.root.ids.Nodup) {r : Route}
    {declared : Node} {element gap inside : List Char} (array : ReturnsArray tree r declared element gap inside) :
    r.findings subject tree <:+: checkTree subject tree ∧
      (∃ unfit unmarked, r.findings subject tree = unfit ++ unmarked ∧
        (invalidAt subject tree r declared).GivenWhen (inside ≠ [] ∧
          ∀ word ∈ ["Promise", "Array"], ∀ piece ∈ [element, gap, inside], ¬word.toList <:+: piece) unfit ∧
        (unmarkedAt subject tree r).GivenWhen ((∃ piece ∈ [element, gap, inside], "Promise".toList <:+: piece) ∧
          ∀ child ∈ r.method.node.children, child.kind ≠ "async") unmarked) ∧
      ∀ usual, (unmarkedAt subject tree r).GivenWhen ("Promise".toList <:+: element ∧
          ∀ child ∈ r.method.node.children, child.kind ≠ "async") usual →
        (r.findings subject tree = usual ↔
          (inside = [] ∨ ∃ word ∈ ["Promise", "Array"], ∃ piece ∈ [element, gap, inside], word.toList <:+: piece) ∧
          ((∃ piece ∈ [gap, inside], "Promise".toList <:+: piece) →
            "Promise".toList <:+: element ∨ ∃ child ∈ r.method.node.children, child.kind = "async")) := by
  obtain ⟨unfit, unmarked, said, rejected, warned⟩ := array.findings_eq subject
  refine ⟨array.stands.findings_infix subject distinct, ⟨unfit, unmarked, said, rejected, warned⟩, ?_⟩
  intro usual expected
  have spoken : (inside = [] ∨ ∃ word ∈ ["Promise", "Array"], ∃ piece ∈ [element, gap, inside], word.toList <:+: piece) ↔
      ¬(inside ≠ [] ∧ ∀ word ∈ ["Promise", "Array"], ∀ piece ∈ [element, gap, inside], ¬word.toList <:+: piece) := by
    simp only [not_and_or, not_not, not_forall, exists_prop, ne_eq]
  rw [said, spoken]
  rcases rejected with ⟨unfitting, rfl⟩ | ⟨fitting, rfl⟩
  · -- an error is not what is usual, whatever else is said
    have apart : invalidAt subject tree r declared ≠ unmarkedAt subject tree r := by
      intro equal
      have severities := congrArg Finding.severity equal
      cases severities
    have differs : [invalidAt subject tree r declared] ++ unmarked ≠ usual := by
      rcases expected with ⟨_, rfl⟩ | ⟨_, rfl⟩
      · simp [apart]
      · simp
    exact iff_of_false differs fun both => both.1 unfitting
  · have unmarkedMethod : (∀ child ∈ r.method.node.children, child.kind ≠ "async") ↔
        ¬∃ child ∈ r.method.node.children, child.kind = "async" := by
      simp only [not_exists, not_and, ne_eq]
    rw [List.nil_append, warned.eq_iff expected, List.exists_mem_cons_iff, unmarkedMethod, and_iff_right fitting]
    by_cases promised : "Promise".toList <:+: element
    · simp only [promised, true_or, implies_true]
    · by_cases marked : ∃ child ∈ r.method.node.children, child.kind = "async"
      · simp only [marked, not_true_eq_false, and_false, or_true, implies_true]
      · simp only [promised, marked, false_or, not_false_eq_true, and_true, iff_false, imp_false]

/-- A comment before the brackets is passed over, but a blank between them makes the array unfit. -/
theorem array_judged_by_element_iff_spaced :
    ∃ (tree : Tree) (r : Route) (declared : Node),
      TypeScript.parse .plain "@Controller()class C{@Get()f():A/**/[ ]{}}" = some tree ∧
        ReturnsArray tree r declared "A".toList "/**/".toList " ".toList ∧
        r.findings (.ofPath "controller.ts") tree = [invalidAt (.ofPath "controller.ts") tree r declared] ∧
        invalidAt (.ofPath "controller.ts") tree r declared ∈ checkTree (.ofPath "controller.ts") tree := by
  have spelled : (TypeScript.parse .plain "@Controller()class C{@Get()f():A/**/[ ]{}}").any (fun tree =>
      (Route.ofTree tree).any fun r => (r.method.node.child? "return_type").any fun declared =>
        declared.kind == "type_annotation" && declared.firstPart?.any fun type => type.kind == "array_type" &&
          (tree.text type).toList == arrayText "A".toList "/**/".toList " ".toList) = true := by decide +kernel
  simp only [Option.any_eq_true, List.any_eq_true, Bool.and_eq_true, beq_iff_eq] at spelled
  obtain ⟨tree, read, r, listed, declared, declares, kind, type, first, array, text⟩ := spelled
  have returns : ReturnsArray tree r declared "A".toList "/**/".toList " ".toList :=
    { stands := Route.mem_ofTree.mp listed
      declares
      array := ⟨type, ⟨kind, first⟩, array, text⟩
      between := .block (by decide : ¬['*', '/'] <:+: []) .nil
      within := .space rfl .nil }
  have distinct := (Node.ids_sublist _).nodup (TypeScript.nodup_everyId_of_parse read)
  obtain ⟨inside, ⟨unfit, unmarked, said, rejected, warned⟩, _⟩ :=
    array_judged_by_element_iff (.ofPath "controller.ts") distinct returns
  rcases rejected with ⟨_, rfl⟩ | ⟨fitting, _⟩
  · rcases warned with ⟨⟨promised, _⟩, _⟩ | ⟨_, rfl⟩
    · exact absurd promised (by decide)
    · rw [List.append_nil] at said
      refine ⟨tree, r, declared, read, returns, said, inside.subset ?_⟩
      rw [said]
      exact List.mem_singleton_self _
  · exact absurd (by decide) fitting

end ControllerReturn
end HouseStyle
