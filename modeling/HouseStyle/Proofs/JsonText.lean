import HouseStyle.Json.Printer
import HouseStyle.Json.Reader
import Mathlib.Data.List.Basic

/-! Reading back what was printed.

Printed strings and numbers are read up to where they end, whatever follows a string, and whatever follows
a number if it cannot belong to it. Values are then read by induction on what they are made of; the text
of a value is never shorter than the steps it takes to read it.
-/

set_option autoImplicit false
namespace HouseStyle.Json

/-! Strings -/

theorem hexValue?_hexDigit : ∀ n < 16, hexValue? (hexDigit n) = some n := by decide

theorem unitOf?_hexDigits {n : Nat} (small : n < 0x20) :
    unitOf? '0' '0' (hexDigit (n / 16)) (hexDigit (n % 16)) = some n := by
  have high := hexValue?_hexDigit (n / 16) (by omega)
  have low := hexValue?_hexDigit (n % 16) (by omega)
  have zero : hexValue? '0' = some 0 := by decide
  simp only [unitOf?, high, low, zero, Option.bind_eq_bind, Option.bind_some, Option.pure_def]
  congr 1
  omega

/-- The characters that are written as a backslash and a letter. -/
def lettered : List Char := ['"', '\\', '\x08', '\x0c', '\n', '\r', '\t']

theorem escape_of_lettered : ∀ c ∈ lettered,
    escape c = ['\\', (escape c).getLastD c] ∧ escaped? ((escape c).getLastD c) = some c := by
  intro c member
  simp only [lettered, List.mem_cons, List.not_mem_nil, or_false] at member
  rcases member with rfl | rfl | rfl | rfl | rfl | rfl | rfl <;> decide

theorem escape_of_not_lettered {c : Char} (other : c ∉ lettered) :
    escape c = if c.toNat < 0x20 then
      ['\\', 'u', '0', '0', hexDigit (c.toNat / 16), hexDigit (c.toNat % 16)] else [c] := by
  simp only [lettered, List.mem_cons, List.not_mem_nil, or_false, not_or] at other
  simp only [escape, other, beq_iff_eq, if_false]

theorem pieces_letter {letter c : Char} (known : escaped? letter = some c) (rest : List Char) :
    pieces ('\\' :: letter :: rest) = (pieces rest).map fun (more, after) => (.char c :: more, after) := by
  have notUnit : letter ≠ 'u' := by
    rintro rfl
    cases known
  rw [pieces, known]
  · cases pieces rest <;> rfl
  · intro _ _ _ _ _ same _
    exact notUnit same

theorem pieces_unit {a b c d : Char} {unit : Nat} (known : unitOf? a b c d = some unit) (rest : List Char) :
    pieces ('\\' :: 'u' :: a :: b :: c :: d :: rest) =
      (pieces rest).map fun (more, after) => (.unit unit :: more, after) := by
  rw [pieces, known]
  cases pieces rest <;> rfl

theorem pieces_plain {c : Char} (notQuote : c ≠ '"') (notBackslash : c ≠ '\\') (printable : ¬ c.toNat < 0x20)
    (rest : List Char) :
    pieces (c :: rest) = (pieces rest).map fun (more, after) => (.char c :: more, after) := by
  rw [pieces, if_neg printable]
  · cases pieces rest <;> rfl
  · exact notQuote
  · intro _ _ _ _ _ same _
    exact notBackslash same
  · intro _ _ same _
    exact notBackslash same

theorem spelled_unit {unit : Nat} (small : unit < 0xD800) (rest : List Piece) :
    spelled (.unit unit :: rest) = (spelled rest).map (Char.ofNat unit :: ·) := by
  have notLeading : isLeading unit = false := by simp [isLeading]; omega
  have notTrailing : isTrailing unit = false := by simp [isTrailing]; omega
  cases rest with
  | nil => simp [spelled, notLeading, notTrailing]
  | cons next others =>
    cases next with
    | char c => simp [spelled, notLeading, notTrailing]
    | unit low => simp [spelled, notLeading, notTrailing]

/-- A character is read back as one piece, and the piece spells it. -/
theorem escape_piece (c : Char) : ∃ piece : Piece,
    (∀ rest, pieces (escape c ++ rest) = (pieces rest).map fun (more, after) => (piece :: more, after)) ∧
      ∀ more, spelled (piece :: more) = (spelled more).map (c :: ·) := by
  by_cases short : c ∈ lettered
  · obtain ⟨written, known⟩ := escape_of_lettered c short
    refine ⟨.char c, fun rest => ?_, fun more => by rw [spelled]⟩
    rw [written]
    exact pieces_letter known rest
  · rw [escape_of_not_lettered short]
    by_cases control : c.toNat < 0x20
    · refine ⟨.unit c.toNat, fun rest => ?_, fun more => ?_⟩
      · rw [if_pos control]
        exact pieces_unit (unitOf?_hexDigits control) rest
      · rw [spelled_unit (by omega), Char.ofNat_toNat]
    · refine ⟨.char c, fun rest => ?_, fun more => by rw [spelled]⟩
      rw [if_neg control]
      apply pieces_plain _ _ control
      · rintro rfl
        exact short (by decide)
      · rintro rfl
        exact short (by decide)

theorem pieces_quoted (text rest : List Char) : ∃ found : List Piece,
    pieces (text.flatMap escape ++ '"' :: rest) = some (found, rest) ∧ spelled found = some text := by
  induction text with
  | nil => exact ⟨[], rfl, rfl⟩
  | cons c text ih =>
    obtain ⟨found, read, spelling⟩ := ih
    obtain ⟨piece, readFirst, spellingFirst⟩ := escape_piece c
    refine ⟨piece :: found, ?_, ?_⟩
    · rw [List.flatMap_cons, List.append_assoc, readFirst, read]
      rfl
    · rw [spellingFirst, spelling]
      rfl

/-- A quoted text is read as that text, whatever follows. -/
theorem stringRest_quoted (text : String) (rest : List Char) :
    stringRest (text.toList.flatMap escape ++ '"' :: rest) = some (some text, rest) := by
  obtain ⟨found, read, spelling⟩ := pieces_quoted text.toList rest
  simp only [stringRest, read, Option.map_some, spelling, String.ofList_toList]

/-! Numbers -/

/-- What may follow a value inside of another or at the end of the text. -/
def Closes (rest : List Char) : Prop :=
  ∀ c ∈ rest.head?, c = ',' ∨ c = ']' ∨ c = '\x7d' ∨ c = '\n'

theorem digits_eq (n : Nat) : digits n = Nat.toDigits 10 n := by
  simp [digits]

theorem isDigit_of_mem_digits {n : Nat} {c : Char} (member : c ∈ digits n) : isDigit c = true := by
  rw [digits_eq] at member
  exact Nat.isDigit_of_mem_toDigits (by decide) (by decide) member

theorem valueOf_digits (n : Nat) : valueOf (digits n) = n := by
  have read := @Nat.ofDigitChars_ten_toDigits n
  rw [Nat.ofDigitChars_eq_foldl] at read
  simpa [valueOf, digits_eq, Nat.mul_comm] using read

theorem head?_digits {n : Nat} (positive : 0 < n) : (digits n).head? ≠ some '0' := by
  rw [digits_eq]
  induction n using Nat.base_induction 10 (by decide) with
  | single m small =>
    rw [Nat.toDigits_of_lt_base small]
    have notZero : m ≠ 0 := by omega
    simp [notZero]
  | digit m k low high ih =>
    rw [← Nat.toDigits_append_toDigits (by decide) high low, List.head?_append_of_ne_nil _ Nat.toDigits_ne_nil]
    exact ih high

theorem Closes.span {rest : List Char} (closes : Closes rest) :
    rest.takeWhile isDigit = [] ∧ rest.dropWhile isDigit = rest := by
  cases rest with
  | nil => exact ⟨rfl, rfl⟩
  | cons c rest =>
    have notDigit : isDigit c = false := by
      rcases closes c rfl with rfl | rfl | rfl | rfl <;> rfl
    simp [notDigit]

theorem Closes.fraction {rest : List Char} (closes : Closes rest) : fraction rest = some ([], rest) := by
  cases rest with
  | nil => rfl
  | cons c rest => rcases closes c rfl with rfl | rfl | rfl | rfl <;> rfl

theorem Closes.exponent {rest : List Char} (closes : Closes rest) : exponent rest = some ([], rest) := by
  cases rest with
  | nil => rfl
  | cons c rest => rcases closes c rfl with rfl | rfl | rfl | rfl <;> rfl

theorem someDigits_digits (n : Nat) {rest : List Char} (closes : Closes rest) :
    someDigits (digits n ++ rest) = some (digits n, rest) := by
  have all : ∀ c ∈ digits n, isDigit c = true := fun c member => isDigit_of_mem_digits member
  rw [someDigits, List.takeWhile_append_of_pos all, List.dropWhile_append_of_pos all, closes.span.1, closes.span.2,
    List.append_nil]
  cases written : digits n with
  | nil => simp [digits_eq] at written
  | cons c more =>
    have first : isDigit c = true := all c (by simp [written])
    simp [first]

theorem whole_digits (n : Nat) {rest : List Char} (closes : Closes rest) :
    whole (digits n ++ rest) = some (digits n, rest) := by
  rw [whole, someDigits_digits n closes, Option.filter_some]
  by_cases zero : n = 0
  · subst zero
    rfl
  · have first := head?_digits (Nat.pos_of_ne_zero zero)
    simp [first]

/-- A natural number is read as that number, if nothing follows that goes on with it. -/
theorem numeral_digits (n : Nat) {rest : List Char} (closes : Closes rest) :
    numeral (digits n ++ rest) = some (.natural n, rest) := by
  have whole := whole_digits n closes
  cases written : digits n with
  | nil => simp [digits_eq] at written
  | cons c more =>
    have first : isDigit c = true := isDigit_of_mem_digits (n := n) (by simp [written])
    have unsigned : c ≠ '-' := by
      rintro rfl
      cases first
    rw [written, List.cons_append] at whole
    rw [List.cons_append, numeral]
    · simp [whole, closes.fraction, closes.exponent, ← written, valueOf_digits]
    · intro _ same
      exact unsigned (List.cons.inj same).1

/-! Blanks -/

theorem skipBlanks_cons {c : Char} (busy : isBlank c = false) (text : List Char) :
    skipBlanks (c :: text) = c :: text := by
  simp [skipBlanks, busy]

theorem skipBlanks_append {blanks : List Char} (all : ∀ c ∈ blanks, isBlank c = true) (text : List Char) :
    skipBlanks (blanks ++ text) = skipBlanks text := by
  rw [skipBlanks, List.dropWhile_append_of_pos all]
  rfl

theorem isBlank_of_mem_lead {layout : Layout} {depth : Nat} {c : Char} (member : c ∈ layout.lead depth) :
    isBlank c = true := by
  cases layout with
  | compact => simp [Layout.lead] at member
  | pretty =>
    rcases List.mem_cons.mp member with rfl | space
    · rfl
    · rw [List.eq_of_mem_replicate space]
      rfl

theorem skipBlanks_lead (layout : Layout) (depth : Nat) (text : List Char) :
    skipBlanks (layout.lead depth ++ text) = skipBlanks text :=
  skipBlanks_append (fun _ member => isBlank_of_mem_lead member) text

theorem value_congr {text other : List Char} (same : skipBlanks text = skipBlanks other) (steps : Nat) :
    value steps text = value steps other := by
  cases steps with
  | zero => rfl
  | succ steps => rw [value, value, same]

theorem closes_lead (layout : Layout) (depth : Nat) {rest : List Char} (closes : Closes rest) :
    Closes (layout.lead depth ++ rest) := by
  cases layout with
  | compact => exact closes
  | pretty =>
    intro c first
    cases first
    simp

theorem colon_eq (layout : Layout) :
    ∃ gap, layout.colon = ':' :: gap ∧ ∀ c ∈ gap, isBlank c = true := by
  cases layout with
  | compact => exact ⟨[], rfl, by simp⟩
  | pretty => exact ⟨[' '], rfl, by simp [isBlank]⟩

/-! Values -/

/-- A value of texts and natural numbers, with a text for each key. -/
inductive Plain : Json → Prop where
  | null : Plain .null
  | bool (value : Bool) : Plain (.bool value)
  | natural (value : Nat) : Plain (.natural value)
  | text (value : String) : Plain (.text value)
  | array {items : List Json} : (∀ item ∈ items, Plain item) → Plain (.array items)
  | object {fields : List (Option String × Json)} : (∀ field ∈ fields, field.1.isSome = true) →
      (∀ field ∈ fields, Plain field.2) → Plain (.object fields)

theorem isBlank_of_isDigit {c : Char} (digit : isDigit c = true) : isBlank c = false := by
  rw [Bool.eq_false_iff]
  intro blank
  simp only [isBlank, Bool.or_eq_true, beq_iff_eq] at blank
  rcases blank with ((rfl | rfl) | rfl) | rfl <;> cases digit

theorem quoted_append (text rest : List Char) :
    quoted text ++ rest = '"' :: (text.flatMap escape ++ '"' :: rest) := by
  simp [quoted]

theorem Plain.chars_eq_cons {v : Json} (plain : Plain v) (layout : Layout) (depth : Nat) :
    ∃ c more, chars layout depth v = c :: more ∧ isBlank c = false ∧ c ≠ ']' := by
  cases plain with
  | null => exact ⟨_, _, by rw [chars]; rfl, rfl, by decide⟩
  | bool value =>
    cases value with
    | true => exact ⟨_, _, by rw [chars]; rfl, rfl, by decide⟩
    | false => exact ⟨_, _, by rw [chars]; rfl, rfl, by decide⟩
  | natural n =>
    cases written : digits n with
    | nil => simp [digits_eq] at written
    | cons c more =>
      have digit : isDigit c = true := isDigit_of_mem_digits (n := n) (by simp [written])
      refine ⟨c, more, by rw [chars, written], isBlank_of_isDigit digit, ?_⟩
      rintro rfl
      cases digit
  | text value => exact ⟨_, _, by rw [Json.text, chars, quoted]; rfl, rfl, by decide⟩
  | array items =>
    rename_i found
    cases found with
    | nil => exact ⟨_, _, by rw [chars], rfl, by decide⟩
    | cons item rest => exact ⟨_, _, by rw [chars]; simp only [List.cons_append]; rfl, rfl, by decide⟩
  | object keys fields =>
    rename_i found
    cases found with
    | nil => exact ⟨_, _, by rw [chars], rfl, by decide⟩
    | cons field rest =>
      exact ⟨_, _, by rw [chars]; simp only [List.cons_append]; rfl, rfl, by decide⟩

/-- The printed value is read back and the rest is left, in as many steps as there are characters. -/
def ReadsBack (v : Json) : Prop :=
  ∀ (layout : Layout) (depth steps : Nat) (rest : List Char), (chars layout depth v).length ≤ steps →
    Closes rest → value steps (chars layout depth v ++ rest) = some (v, rest)

theorem value_digit {c : Char} (digit : isDigit c = true) (text : List Char) (steps : Nat) :
    value (steps + 1) (c :: text) = numeral (c :: text) := by
  rw [value, skipBlanks_cons (isBlank_of_isDigit digit)]
  -- no other value begins with a digit
  split
  · next same => cases same
  · next same => cases same; cases digit
  · next same => cases same; cases digit
  · next same => cases same; cases digit
  · next same => cases same; cases digit
  · next same => cases same; cases digit
  · next same => cases same; cases digit
  · rfl

theorem value_array {inner : List Char} (goesOn : ∀ after, skipBlanks inner ≠ ']' :: after) (steps : Nat) :
    value (steps + 1) ('[' :: inner) = (items steps inner).map fun (found, after) => (.array found, after) := by
  rw [value, skipBlanks_cons rfl]
  simp only

theorem value_object {inner : List Char} (goesOn : ∀ after, skipBlanks inner ≠ '\x7d' :: after) (steps : Nat) :
    value (steps + 1) ('\x7b' :: inner) =
      (fields steps inner).map fun (found, after) => (.object found, after) := by
  rw [value, skipBlanks_cons rfl]
  simp only

section
variable (layout : Layout) (depth : Nat)

theorem closes_items (others : List Json) (rest : List Char) :
    Closes (itemChars layout (depth + 1) others ++ layout.lead depth ++ ']' :: rest) := by
  cases others with
  | nil =>
    rw [itemChars, List.nil_append]
    exact closes_lead layout depth fun c first => by cases first; simp
  | cons item others =>
    rw [itemChars]
    intro c first
    cases first
    simp

theorem closes_fields (others : List (Option String × Json)) (rest : List Char) :
    Closes (fieldChars layout (depth + 1) others ++ layout.lead depth ++ '\x7d' :: rest) := by
  cases others with
  | nil =>
    rw [fieldChars, List.nil_append]
    exact closes_lead layout depth fun c first => by cases first; simp
  | cons field others =>
    rw [fieldChars]
    intro c first
    cases first
    simp

/-- Items are read up to the bracket, each after the one before it. -/
theorem items_chars {first : Json} {others : List Json} (each : ∀ item ∈ first :: others, ReadsBack item)
    (rest : List Char) {steps : Nat}
    (enough : (chars layout (depth + 1) first).length + (itemChars layout (depth + 1) others).length < steps) :
    items steps (layout.lead (depth + 1) ++ (chars layout (depth + 1) first ++
      (itemChars layout (depth + 1) others ++ layout.lead depth ++ ']' :: rest))) =
      some (first :: others, rest) := by
  induction others generalizing first steps with
  | nil =>
    obtain ⟨left, rfl⟩ : ∃ left, steps = left + 1 := ⟨steps - 1, by omega⟩
    have read := each first List.mem_cons_self layout (depth + 1) left _ (by omega)
      (closes_items layout depth [] rest)
    rw [items, value_congr (skipBlanks_lead layout _ _), read]
    simp only [itemChars, List.nil_append, skipBlanks_lead, skipBlanks_cons (c := ']') rfl]
  | cons second others ih =>
    obtain ⟨left, rfl⟩ : ∃ left, steps = left + 1 := ⟨steps - 1, by omega⟩
    have read := each first List.mem_cons_self layout (depth + 1) left _ (by omega)
      (closes_items layout depth (second :: others) rest)
    have shorter : (chars layout (depth + 1) second).length +
        (itemChars layout (depth + 1) others).length < left := by
      simp only [itemChars, List.length_append, List.length_cons] at enough
      omega
    have later := ih (fun item member => each item (List.mem_cons_of_mem _ member)) shorter
    rw [items, value_congr (skipBlanks_lead layout _ _), read]
    simp only [itemChars, List.cons_append, List.append_assoc, skipBlanks_cons (c := ',') rfl] at later ⊢
    rw [later, Option.map_some]

/-- A key and its colon are read, and the value is what follows. -/
theorem fields_key (key : String) (text : List Char) (steps : Nat) :
    fields (steps + 1) (layout.lead depth ++ (quoted key.toList ++ (layout.colon ++ text))) =
      match value steps text with
      | none => none
      | some (found, rest) =>
        match skipBlanks rest with
        | '\x7d' :: after => some ([(some key, found)], after)
        | ',' :: rest => (fields steps rest).map fun (more, after) => ((some key, found) :: more, after)
        | _ => none := by
  obtain ⟨gap, colon, blank⟩ := colon_eq layout
  rw [fields, skipBlanks_lead, quoted_append, skipBlanks_cons rfl]
  simp only [stringRest_quoted, colon, List.cons_append, skipBlanks_cons (c := ':') rfl]
  rewrite [value_congr (skipBlanks_append blank text)]
  rfl

/-- Fields are read up to the brace, each after the one before it. -/
theorem fields_chars (key : String) {first : Json} {others : List (Option String × Json)}
    (keys : ∀ field ∈ others, field.1.isSome = true) (each : ReadsBack first)
    (eachOther : ∀ field ∈ others, ReadsBack field.2) (rest : List Char) {steps : Nat}
    (enough : (chars layout (depth + 1) first).length + (fieldChars layout (depth + 1) others).length < steps) :
    fields steps (layout.lead (depth + 1) ++ (quoted key.toList ++ (layout.colon ++
      (chars layout (depth + 1) first ++
        (fieldChars layout (depth + 1) others ++ layout.lead depth ++ '\x7d' :: rest))))) =
      some ((some key, first) :: others, rest) := by
  induction others generalizing key first steps with
  | nil =>
    obtain ⟨left, rfl⟩ : ∃ left, steps = left + 1 := ⟨steps - 1, by omega⟩
    have read := each layout (depth + 1) left _ (by omega) (closes_fields layout depth [] rest)
    rw [fields_key, read]
    simp only [fieldChars, List.nil_append, skipBlanks_lead, skipBlanks_cons (c := '\x7d') rfl]
  | cons second others ih =>
    obtain ⟨left, rfl⟩ : ∃ left, steps = left + 1 := ⟨steps - 1, by omega⟩
    obtain ⟨name, next⟩ := second
    obtain ⟨name, rfl⟩ := Option.isSome_iff_exists.mp (keys _ List.mem_cons_self)
    have read := each layout (depth + 1) left _ (by omega)
      (closes_fields layout depth ((some name, next) :: others) rest)
    have shorter : (chars layout (depth + 1) next).length +
        (fieldChars layout (depth + 1) others).length < left := by
      simp only [fieldChars, List.length_append, List.length_cons] at enough
      omega
    have later := ih name (fun field member => keys field (List.mem_cons_of_mem _ member))
      (eachOther _ List.mem_cons_self) (fun field member => eachOther field (List.mem_cons_of_mem _ member)) shorter
    rw [fields_key, read]
    simp only [fieldChars, List.cons_append, List.append_assoc, skipBlanks_cons (c := ',') rfl,
      Option.getD_some] at later ⊢
    rw [later, Option.map_some]

end

theorem steps_pos {v : Json} (plain : Plain v) {layout : Layout} {depth steps : Nat}
    (enough : (chars layout depth v).length ≤ steps) : ∃ left, steps = left + 1 := by
  obtain ⟨c, more, written, _⟩ := plain.chars_eq_cons layout depth
  rw [written, List.length_cons] at enough
  exact ⟨steps - 1, by omega⟩

theorem readsBack_array {items : List Json} (each : ∀ item ∈ items, Plain item)
    (readsBack : ∀ item ∈ items, ReadsBack item) : ReadsBack (.array items) := by
  intro layout depth steps rest enough _
  obtain ⟨left, rfl⟩ := steps_pos (.array each) enough
  cases items with
  | nil =>
    rw [chars, value]
    rfl
  | cons first others =>
    obtain ⟨c, more, written, busy, notBracket⟩ :=
      (each first List.mem_cons_self).chars_eq_cons layout (depth + 1)
    rw [chars] at enough ⊢
    simp only [List.length_cons, List.length_append] at enough
    have shorter : (chars layout (depth + 1) first).length +
        (itemChars layout (depth + 1) others).length < left := by
      omega
    have read := items_chars layout depth readsBack rest shorter
    simp only [List.cons_append, List.append_assoc, List.nil_append] at read ⊢
    rw [value_array, read]
    · rfl
    · -- the first item cannot be taken for the end of an empty array
      intro after
      rw [skipBlanks_lead, written, List.cons_append, skipBlanks_cons busy]
      intro same
      exact notBracket (List.cons.inj same).1

theorem readsBack_object {fields : List (Option String × Json)} (keys : ∀ field ∈ fields, field.1.isSome = true)
    (each : ∀ field ∈ fields, Plain field.2) (readsBack : ∀ field ∈ fields, ReadsBack field.2) :
    ReadsBack (.object fields) := by
  intro layout depth steps rest enough _
  obtain ⟨left, rfl⟩ := steps_pos (.object keys each) enough
  cases fields with
  | nil =>
    rw [chars, value]
    rfl
  | cons first others =>
    obtain ⟨name, next⟩ := first
    obtain ⟨name, rfl⟩ := Option.isSome_iff_exists.mp (keys _ List.mem_cons_self)
    rw [chars] at enough ⊢
    simp only [List.length_cons, List.length_append] at enough
    have shorter : (chars layout (depth + 1) next).length +
        (fieldChars layout (depth + 1) others).length < left := by
      omega
    have read := fields_chars layout depth name (fun field member => keys field (List.mem_cons_of_mem _ member))
      (readsBack _ List.mem_cons_self) (fun field member => readsBack field (List.mem_cons_of_mem _ member)) rest
      shorter
    simp only [List.cons_append, List.append_assoc, List.nil_append, Option.getD_some] at read ⊢
    rw [value_object, read]
    · rfl
    · -- a key begins with a quote
      intro after
      rw [skipBlanks_lead, quoted_append, skipBlanks_cons rfl]
      intro same
      exact absurd (List.cons.inj same).1 (by decide)

/-- Every plain value is read back from its text. -/
theorem Plain.readsBack {v : Json} (plain : Plain v) : ReadsBack v := by
  induction plain with
  | null =>
    intro layout depth steps rest enough _
    obtain ⟨left, rfl⟩ := steps_pos .null enough
    rw [value, chars]
    rfl
  | bool given =>
    intro layout depth steps rest enough _
    obtain ⟨left, rfl⟩ := steps_pos (.bool given) enough
    cases given with
    | true => rw [value, chars]; rfl
    | false => rw [value, chars]; rfl
  | natural n =>
    intro layout depth steps rest enough closes
    obtain ⟨left, rfl⟩ := steps_pos (.natural n) enough
    have read := numeral_digits n closes
    rw [chars]
    cases written : digits n with
    | nil => simp [digits_eq] at written
    | cons c more =>
      have digit : isDigit c = true := isDigit_of_mem_digits (n := n) (by simp [written])
      rw [List.cons_append, value_digit digit, ← List.cons_append, ← written, read]
  | text given =>
    intro layout depth steps rest enough _
    obtain ⟨left, rfl⟩ := steps_pos (.text given) enough
    rw [Json.text, chars, Option.getD_some, quoted_append, value, skipBlanks_cons rfl]
    simp only [stringRest_quoted, Option.map_some]
  | array each readsBack => exact readsBack_array each readsBack
  | object keys each readsBack => exact readsBack_object keys each readsBack

/-! Whole texts -/

theorem parse_of_value {text rest : List Char} {v : Json} (read : value (2 * text.length + 2) text = some (v, rest))
    (blank : skipBlanks rest = []) : parse (String.ofList text) = some v := by
  simp only [parse, String.toList_ofList, read, Option.bind_eq_bind, Option.bind_some, blank]
  rfl

/-- A printed value parses to itself, also when the text ends its line. -/
theorem parse_print {v : Json} (plain : Plain v) (layout : Layout) :
    parse (v.print layout) = some v ∧ parse (v.print layout ++ "\n") = some v := by
  have line : v.print layout ++ "\n" = String.ofList (chars layout 0 v ++ ['\n']) := String.ofList_append.symm
  constructor
  · apply parse_of_value _ (show skipBlanks [] = [] from rfl)
    have read := plain.readsBack layout 0 (2 * (chars layout 0 v).length + 2) [] (by omega) (by simp [Closes])
    rwa [List.append_nil] at read
  · rw [line]
    apply parse_of_value _ (show skipBlanks ['\n'] = [] from rfl)
    apply plain.readsBack layout 0 _ ['\n']
    · rw [List.length_append]
      omega
    · simp [Closes]

end HouseStyle.Json
