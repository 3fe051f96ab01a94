import HouseStyle.Proofs.FindingPlaces
import HouseStyle.Proofs.TextMatches
import Mathlib.Data.List.Forall2
import Mathlib.Data.Nat.Find

/-! Routes found in the text of a source.

The text is searched for the mark of a request, and from there on for a call: on the rest of the line or after its
end, whatever stands between them. The nearest call is taken. What lies between a mark and its call is not looked at
again, so a mark in there finds nothing of its own.

A type is taken to be declared if a colon comes before the next brace, wherever it stands. So a colon in the argument
of the mark or in the parameters passes for a return type.
-/

set_option autoImplicit false
namespace HouseStyle.ControllerReturn

open Text (Match)

/-! The pattern -/

def IsMark (mark : List Char) : Prop := ∃ request ∈ requests, mark = '@' :: request.toList

def SomeBlanks (text : List Char) : Prop := text ≠ [] ∧ ∀ c ∈ text, Text.isBlank c = true

/-- Some blanks, perhaps `async` and some blanks, a name, perhaps blanks, and a parenthesis. -/
structure Calls (call name : List Char) : Prop where
  identifier : Text.IsIdentifier name
  reads : ∃ blanks lead space, call = blanks ++ (lead ++ (name ++ (space ++ ['(']))) ∧ SomeBlanks blanks ∧
    (lead = [] ∨ ∃ more, lead = "async".toList ++ more ∧ SomeBlanks more) ∧ ∀ c ∈ space, Text.isBlank c = true

/-- A mark that no word character continues, more of its line or nothing, and a call. -/
structure Reads (text mark gap call name after : List Char) : Prop where
  whole : text = mark ++ (gap ++ (call ++ after))
  mark : IsMark mark
  apart : ∀ c ∈ gap.head?, Text.isWordChar c = false
  oneLine : '\n' ∉ gap
  calls : Calls call name

/-- A mark and the call that is nearest to it. -/
def Announces (matched name after : List Char) : Prop :=
  ∃ mark gap call, matched = mark ++ (gap ++ call) ∧ Reads (matched ++ after) mark gap call name after ∧
    ∀ {mark' gap' call' name' after'}, Reads (matched ++ after) mark' gap' call' name' after' → gap.length ≤ gap'.length

/-! Marks -/

theorem eq_of_isMark {mark mark' rest rest' : List Char} (first : IsMark mark) (second : IsMark mark')
    (same : mark ++ rest = mark' ++ rest') : mark = mark' ∧ rest = rest' := by
  obtain ⟨request, known, rfl⟩ := first
  obtain ⟨request', known', rfl⟩ := second
  -- no request is the start of another
  have apart : ∀ r ∈ requests, ∀ r' ∈ requests, r.toList <+: r'.toList → r = r' := by decide
  have marks : request = request' := by
    simp only [List.cons_append, List.cons.injEq, true_and] at same
    rcases List.prefix_or_prefix_of_prefix (List.prefix_append request.toList rest)
      (same ▸ List.prefix_append request'.toList rest') with start | start
    · exact apart _ known _ known' start
    · exact (apart _ known' _ known start).symm
  subst marks
  exact ⟨rfl, List.append_cancel_left same⟩

theorem afterRequest?_eq_some_iff {text rest : List Char} : afterRequest? text = some rest ↔
    ∃ mark, text = mark ++ rest ∧ IsMark mark ∧ ∀ c ∈ rest.head?, Text.isWordChar c = false := by
  have sound {rest : List Char} (found : afterRequest? text = some rest) :
      ∃ mark, text = mark ++ rest ∧ IsMark mark ∧ ∀ c ∈ rest.head?, Text.isWordChar c = false := by
    obtain ⟨request, known, kept⟩ := List.exists_of_findSome?_eq_some found
    obtain ⟨begins, ends⟩ := Option.filter_eq_some_iff.mp kept
    refine ⟨_, Text.after?_eq_some_iff.mp begins, ⟨request, known, rfl⟩, ?_⟩
    intro c first
    rw [Option.mem_def] at first
    simpa [first] using ends
  refine ⟨sound, ?_⟩
  rintro ⟨mark, split, ⟨request, known, rfl⟩, ends⟩
  cases found : afterRequest? text with
  | none =>
    have skipped := List.findSome?_eq_none_iff.mp found request known
    rw [Text.after?_eq_some_iff.mpr split, Option.filter_eq_none_iff] at skipped
    cases rest with
    | nil => exact absurd rfl (skipped [] rfl)
    | cons c rest =>
      have := skipped _ rfl
      simp [ends c rfl] at this
  | some other =>
    obtain ⟨mark, split', isMark, _⟩ := sound found
    rw [(eq_of_isMark ⟨request, known, rfl⟩ isMark (split.symm.trans split')).2]

/-! Calls -/

theorem afterBlanks?_eq_some_iff {text rest : List Char} : afterBlanks? text = some rest ↔
    (∃ blanks, text = blanks ++ rest ∧ SomeBlanks blanks) ∧ ∀ c ∈ rest.head?, Text.isBlank c = false := by
  rw [afterBlanks?]
  constructor
  · intro read
    split at read
    · next blank =>
      obtain ⟨split, blanks, stops⟩ := (@Text.span_iff Text.isBlank text _ rest).mp ⟨rfl, Option.some.inj read⟩
      refine ⟨⟨_, split, ?_, blanks⟩, stops⟩
      -- the first character was seen to be blank
      intro none
      cases text with
      | nil => cases blank
      | cons c text =>
        rw [List.takeWhile_cons_of_pos (by simpa using blank)] at none
        cases none
    · cases read
  · rintro ⟨⟨blanks, rfl, filled, blank⟩, stops⟩
    have trimmed : Text.trimStart (blanks ++ rest) = rest := (Text.span_iff.mpr ⟨rfl, blank, stops⟩).2
    rw [trimmed]
    cases blanks with
    | nil => exact absurd rfl filled
    | cons c blanks => simp [blank c]

theorem calledName?_eq_some_iff {text name after : List Char} : calledName? text = some (name, after) ↔
    Text.IsIdentifier name ∧ ∃ space, text = name ++ (space ++ '(' :: after) ∧ ∀ c ∈ space, Text.isBlank c = true := by
  rw [calledName?]
  constructor
  · intro read
    split at read
    · cases read
    · next found rest named =>
      split at read
      · next behind opened =>
        cases read
        obtain ⟨split, identifier, _⟩ := Text.identifier?_eq_some_iff.mp named
        obtain ⟨blanks, blank, _⟩ := (@Text.span_iff Text.isBlank rest _ _).mp ⟨rfl, opened⟩
        exact ⟨identifier, _, split.trans (congrArg _ blanks), blank⟩
      · cases read
  · rintro ⟨identifier, space, rfl, blank⟩
    have longest : ∀ c ∈ (space ++ '(' :: after).head?, Text.isIdentPart c = false := by
      intro c first
      cases space with
      | nil =>
        cases first
        decide
      | cons d space =>
        cases first
        exact Text.isIdentPart_of_isBlank (blank c List.mem_cons_self)
    have trimmed : Text.trimStart (space ++ '(' :: after) = '(' :: after := by
      refine (Text.span_iff.mpr ⟨rfl, blank, ?_⟩).2
      intro c first
      cases first
      decide
    rw [Text.identifier?_eq_some_iff.mpr ⟨rfl, identifier, longest⟩]
    dsimp only
    rw [trimmed]
    rfl

theorem isBlank_head_of_isIdentifier {name : List Char} (identifier : Text.IsIdentifier name) (rest : List Char) :
    ∀ c ∈ (name ++ rest).head?, Text.isBlank c = false := by
  obtain ⟨d, more, rfl, start, _⟩ := identifier
  intro c first
  cases first
  exact Text.isBlank_of_isIdentStart start

theorem isIdentifier_async : Text.IsIdentifier "async".toList :=
  ⟨'a', "sync".toList, rfl, by decide, List.all_eq_true.mp (by decide)⟩

/-- After `async` and blanks a name is called, or `async` itself is, but never both. -/
theorem calledName?_of_async {more rest name after : List Char} (blanks : SomeBlanks more)
    (stops : ∀ c ∈ rest.head?, Text.isBlank c = false)
    (called : calledName? ("async".toList ++ (more ++ rest)) = some (name, after)) : calledName? rest = none := by
  obtain ⟨identifier, space, split, blank⟩ := calledName?_eq_some_iff.mp called
  have begins : Text.identifier? ("async".toList ++ (more ++ rest)) = some ("async".toList, more ++ rest) := by
    refine Text.identifier?_eq_some_iff.mpr ⟨rfl, isIdentifier_async, ?_⟩
    intro c first
    obtain ⟨d, others, rfl⟩ := List.exists_cons_of_ne_nil blanks.1
    cases first
    exact Text.isIdentPart_of_isBlank (blanks.2 c List.mem_cons_self)
  -- so `async` is the name, and the parenthesis comes where the other name should
  rw [calledName?, begins] at called
  have trimmed : Text.trimStart (more ++ rest) = rest := (Text.span_iff.mpr ⟨rfl, blanks.2, stops⟩).2
  dsimp only at called
  rw [trimmed] at called
  split at called
  · rfl
  · cases called

theorem method?_eq_some_iff {text name after : List Char} :
    method? text = some (name, after) ↔ ∃ call, text = call ++ after ∧ Calls call name := by
  rw [method?]
  constructor
  · intro read
    split at read
    · cases read
    · next rest blanked =>
      obtain ⟨⟨blanks, rfl, some⟩, _⟩ := afterBlanks?_eq_some_iff.mp blanked
      cases marked : ((Text.after? "async".toList rest).bind afterBlanks?).bind calledName? with
      | none =>
        rw [marked] at read
        obtain ⟨identifier, space, rfl, blank⟩ := calledName?_eq_some_iff.mp read
        exact ⟨blanks ++ ([] ++ (name ++ (space ++ ['(']))), by simp, identifier, blanks, [], space, rfl, some,
          .inl rfl, blank⟩
      | some pair =>
        rw [marked] at read
        cases read
        obtain ⟨further, between, called⟩ := Option.bind_eq_some_iff.mp marked
        obtain ⟨behind, word, parted⟩ := Option.bind_eq_some_iff.mp between
        obtain ⟨identifier, space, rfl, blank⟩ := calledName?_eq_some_iff.mp called
        obtain ⟨⟨more, rfl, filled⟩, _⟩ := afterBlanks?_eq_some_iff.mp parted
        rw [Text.after?_eq_some_iff] at word
        subst word
        exact ⟨blanks ++ (("async".toList ++ more) ++ (name ++ (space ++ ['(']))), by simp, identifier, blanks, _,
          space, rfl, some, .inr ⟨more, rfl, filled⟩, blank⟩
  · rintro ⟨call, rfl, identifier, blanks, lead, space, rfl, some, lead_eq, blank⟩
    have called : calledName? (name ++ (space ++ '(' :: after)) = Option.some (name, after) :=
      calledName?_eq_some_iff.mpr ⟨identifier, space, rfl, blank⟩
    rcases lead_eq with rfl | ⟨more, rfl, filled⟩
    · have parted : afterBlanks? (blanks ++ ([] ++ (name ++ (space ++ ['(']))) ++ after) =
          Option.some (name ++ (space ++ '(' :: after)) := by
        refine afterBlanks?_eq_some_iff.mpr ⟨⟨blanks, by simp, some⟩, ?_⟩
        exact isBlank_head_of_isIdentifier identifier _
      rw [parted]
      dsimp only
      cases marked : ((Text.after? "async".toList (name ++ (space ++ '(' :: after))).bind afterBlanks?).bind
          calledName? with
      | none => exact called
      | some pair =>
        -- the name begins with `async`, and what follows would have to be called as well
        obtain ⟨further, between, other⟩ := Option.bind_eq_some_iff.mp marked
        obtain ⟨behind, word, parted⟩ := Option.bind_eq_some_iff.mp between
        obtain ⟨⟨more, rfl, filled⟩, stops⟩ := afterBlanks?_eq_some_iff.mp parted
        rw [Text.after?_eq_some_iff] at word
        rw [word] at called
        rw [calledName?_of_async filled stops called] at other
        cases other
    · have parted : afterBlanks? (blanks ++ (("async".toList ++ more) ++ (name ++ (space ++ ['(']))) ++ after) =
          Option.some ("async".toList ++ (more ++ (name ++ (space ++ '(' :: after)))) := by
        refine afterBlanks?_eq_some_iff.mpr ⟨⟨blanks, by simp, some⟩, ?_⟩
        exact isBlank_head_of_isIdentifier isIdentifier_async _
      have again : afterBlanks? (more ++ (name ++ (space ++ '(' :: after))) =
          Option.some (name ++ (space ++ '(' :: after)) :=
        afterBlanks?_eq_some_iff.mpr ⟨⟨more, rfl, filled⟩, isBlank_head_of_isIdentifier identifier _⟩
      rw [parted]
      dsimp only
      rw [Text.after?_eq_some_iff.mpr rfl, Option.bind_some, again, Option.bind_some, called]
      rfl

/-! The nearest call -/

/-- A call, and before it a start of the line. -/
structure Meets (text gap call name after : List Char) : Prop where
  whole : text = gap ++ (call ++ after)
  oneLine : '\n' ∉ gap
  calls : Calls call name

theorem nextMethod?_eq_some_iff {text name after : List Char} : nextMethod? text = some (name, after) ↔
    ∃ gap call, Meets text gap call name after ∧
      ∀ {gap' call' name' after'}, Meets text gap' call' name' after' → gap.length ≤ gap'.length := by
  induction text with
  | nil =>
    constructor
    · intro read
      cases read
    · rintro ⟨gap, call, ⟨whole, _, calls⟩, _⟩
      obtain ⟨blanks, lead, space, rfl, _⟩ := calls.reads
      simp at whole
  | cons c rest ih =>
    rw [nextMethod?]
    cases here : method? (c :: rest) with
    | some found =>
      obtain ⟨call, split, calls⟩ := method?_eq_some_iff.mp here
      have atOnce : Meets (c :: rest) [] call found.1 found.2 := ⟨split, List.not_mem_nil, calls⟩
      rw [Option.orElse_some]
      constructor
      · intro read
        cases read
        exact ⟨[], call, atOnce, fun _ => Nat.zero_le _⟩
      · rintro ⟨gap, call', meets, nearest⟩
        obtain rfl : gap = [] := List.eq_nil_of_length_eq_zero (Nat.le_zero.mp (nearest atOnce))
        rw [← here]
        exact method?_eq_some_iff.mpr ⟨call', meets.whole, meets.calls⟩
    | none =>
      -- no call begins here, so a gap begins with this character, and it does not end the line
      have steps {gap call name after : List Char} (meets : Meets (c :: rest) gap call name after) :
          ∃ gap', gap = c :: gap' ∧ c ≠ '\n' ∧ Meets rest gap' call name after := by
        obtain ⟨whole, oneLine, calls⟩ := meets
        cases gap with
        | nil =>
          rw [method?_eq_some_iff.mpr ⟨call, whole, calls⟩] at here
          cases here
        | cons d gap =>
          obtain ⟨rfl, further⟩ := List.cons.inj whole
          rw [List.mem_cons, not_or] at oneLine
          exact ⟨gap, rfl, fun same => oneLine.1 same.symm, further, oneLine.2, calls⟩
      rw [Option.orElse_none]
      split
      · next ends =>
        constructor
        · intro read
          cases read
        · rintro ⟨gap, call, meets, _⟩
          obtain ⟨_, _, goesOn, _⟩ := steps meets
          exact absurd (beq_iff_eq.mp ends) goesOn
      · next goesOn =>
        -- every gap is longer by this character, so the shortest stays the shortest
        rw [ih]
        constructor
        · rintro ⟨gap, call, ⟨whole, oneLine, calls⟩, nearest⟩
          refine ⟨c :: gap, call, ⟨congrArg (c :: ·) whole, ?_, calls⟩, ?_⟩
          · rw [List.mem_cons, not_or]
            exact ⟨fun same => goesOn (beq_iff_eq.mpr same.symm), oneLine⟩
          · intro gap' call' name' after' meets
            obtain ⟨further, rfl, _, meets⟩ := steps meets
            exact Nat.succ_le_succ (nearest meets)
        · rintro ⟨gap, call, meets, nearest⟩
          obtain ⟨further, rfl, differs, meets⟩ := steps meets
          refine ⟨further, call, meets, ?_⟩
          intro gap' call' name' after' other
          have longer : Meets (c :: rest) (c :: gap') call' name' after' := by
            refine ⟨congrArg (c :: ·) other.whole, ?_, other.calls⟩
            rw [List.mem_cons, not_or]
            exact ⟨fun same => differs same.symm, other.oneLine⟩
          exact Nat.le_of_succ_le_succ (nearest longer)

theorem Calls.exists_blank {call name : List Char} (calls : Calls call name) :
    ∃ c rest, call = c :: rest ∧ Text.isBlank c = true := by
  obtain ⟨blanks, lead, space, rfl, ⟨filled, blank⟩, _⟩ := calls.reads
  obtain ⟨c, rest, rfl⟩ := List.exists_cons_of_ne_nil filled
  exact ⟨c, _, rfl, blank c List.mem_cons_self⟩

/-- The mark at the start of a text is the one that is read there. -/
theorem reads_mark_iff {mark : List Char} (isMark : IsMark mark) {rest mark' gap call name after : List Char} :
    Reads (mark ++ rest) mark' gap call name after ↔
      mark' = mark ∧ (∀ c ∈ rest.head?, Text.isWordChar c = false) ∧ Meets rest gap call name after := by
  constructor
  · rintro ⟨whole, isMark', apart, oneLine, calls⟩
    obtain ⟨rfl, rfl⟩ := eq_of_isMark isMark isMark' whole
    refine ⟨rfl, ?_, rfl, oneLine, calls⟩
    intro c first
    cases gap with
    | nil =>
      -- a call begins with a blank
      obtain ⟨d, others, rfl, blank⟩ := calls.exists_blank
      cases first
      exact Text.isWordChar_of_isBlank blank
    | cons d gap =>
      cases first
      exact apart c rfl
  · rintro ⟨rfl, ends, rfl, oneLine, calls⟩
    refine ⟨rfl, isMark, ?_, oneLine, calls⟩
    intro c first
    cases gap with
    | nil => cases first
    | cons d gap => exact ends c first

theorem knows_route : Text.Matcher.Knows route? Announces where
  matches_iff text name after := by
    rw [route?, Option.bind_eq_some_iff]
    constructor
    · rintro ⟨rest, requested, read⟩
      obtain ⟨mark, rfl, isMark, ends⟩ := afterRequest?_eq_some_iff.mp requested
      obtain ⟨gap, call, meets, nearest⟩ := nextMethod?_eq_some_iff.mp read
      have split : mark ++ rest = mark ++ (gap ++ call) ++ after := by simp [meets.whole]
      refine ⟨_, split, mark, gap, call, rfl, ?_, ?_⟩
      · rw [← split]
        exact (reads_mark_iff isMark).mpr ⟨rfl, ends, meets⟩
      · intro mark' gap' call' name' after' reads
        rw [← split] at reads
        exact nearest ((reads_mark_iff isMark).mp reads).2.2
    · rintro ⟨matched, rfl, mark, gap, call, rfl, reads, nearest⟩
      have isMark := reads.mark
      have split : mark ++ (gap ++ call) ++ after = mark ++ (gap ++ (call ++ after)) := by simp
      rw [split] at reads nearest ⊢
      obtain ⟨_, ends, meets⟩ := (reads_mark_iff isMark).mp reads
      refine ⟨_, afterRequest?_eq_some_iff.mpr ⟨mark, rfl, isMark, ends⟩, ?_⟩
      refine nextMethod?_eq_some_iff.mpr ⟨gap, call, meets, ?_⟩
      intro gap' call' name' after' other
      exact nearest ((reads_mark_iff isMark).mpr ⟨rfl, ends, other⟩)
  filled matched name after announces := by
    obtain ⟨mark, gap, call, rfl, reads, _⟩ := announces
    obtain ⟨request, _, rfl⟩ := reads.mark
    exact List.cons_ne_nil _ _

/-! What is said about a match -/

/-- No colon stands before the first opening brace, or none at all where there is no brace. -/
def Untyped (text : List Char) : Prop := ∀ front rest, text = front ++ rest → '\x7b' ∉ front → ':' ∉ front

theorem declaresNothing_iff {text : List Char} : declaresNothing text = true ↔ Untyped text := by
  rw [declaresNothing, Bool.not_eq_true', List.contains_eq_mem, decide_eq_false_iff_not]
  constructor
  · intro none front rest split noBrace colon
    refine none ?_
    rw [split, List.takeWhile_append_of_pos]
    · exact List.mem_append_left _ colon
    · intro c member
      have differs : c ≠ '\x7b' := fun same => noBrace (same ▸ member)
      simpa using differs
  · intro untyped
    refine untyped _ _ List.takeWhile_append_dropWhile.symm ?_
    intro brace
    have kept := List.all_eq_true.mp List.all_takeWhile _ brace
    simp at kept

def missingAt (subject : Subject) (m : Match (List Char)) : Finding :=
  (tag.finding subject .error (fallbackMessage (String.ofList m.value))).atLine (m.before.count '\n' + 1)

/-- An error is all that is said, and only if no type is declared. -/
def Reported (subject : Subject) (m : Match (List Char)) (said : List Finding) : Prop :=
  (missingAt subject m).GivenWhen (Untyped (m.matched ++ m.after)) said

/-- The finding is about the match: the text has a mark there, and the finding tells its line and no column and
names what is called, before which a blank stands; and no type is declared. -/
structure Blames (source : String) (f : Finding) (m : Match (List Char)) : Prop where
  reads : (Text.bytes source).drop m.start = Text.encode (m.matched ++ m.after)
  marked : ∃ request ∈ requests, ∃ rest, m.matched ++ m.after = '@' :: request.toList ++ rest ∧
    ∀ c ∈ rest.head?, Text.isWordChar c = false
  placed : f.line = some (m.before.count '\n' + 1) ∧ f.column = none
  named : f.message = fallbackMessage (String.ofList m.value) ∧ Text.IsIdentifier m.value
  called : ∃ front blank space, m.matched = front ++ blank :: (m.value ++ (space ++ ['('])) ∧
    Text.isBlank blank = true ∧ ∀ c ∈ space, Text.isBlank c = true
  untyped : Untyped (m.matched ++ m.after)

theorem SomeBlanks.exists_last {blanks : List Char} (some : SomeBlanks blanks) :
    ∃ front blank, blanks = front ++ [blank] ∧ Text.isBlank blank = true :=
  ⟨_, _, (List.dropLast_append_getLast some.1).symm, some.2 _ (List.getLast_mem some.1)⟩

theorem Calls.exists_front {call name : List Char} (calls : Calls call name) :
    ∃ front blank space, call = front ++ blank :: (name ++ (space ++ ['('])) ∧ Text.isBlank blank = true ∧
      ∀ c ∈ space, Text.isBlank c = true := by
  obtain ⟨blanks, lead, space, rfl, some, rfl | ⟨more, rfl, filled⟩, blank⟩ := calls.reads
  · obtain ⟨front, last, rfl, here⟩ := some.exists_last
    exact ⟨front, last, space, by simp, here, blank⟩
  · obtain ⟨front, last, rfl, here⟩ := filled.exists_last
    exact ⟨blanks ++ ("async".toList ++ front), last, space, by simp, here, blank⟩

theorem blames_missingAt {source : String} {m : Match (List Char)} (stands : m.StandsIn Announces source.toList)
    (untyped : Untyped (m.matched ++ m.after)) (subject : Subject) : Blames source (missingAt subject m) m := by
  obtain ⟨mark, gap, call, matched, reads, _⟩ := stands.fits
  have calls := reads.calls
  refine ⟨stands.drop_encode, ?_, ⟨rfl, rfl⟩, ⟨rfl, calls.identifier⟩, ?_, untyped⟩
  · obtain ⟨request, known, rfl⟩ := reads.mark
    have whole := reads.whole
    rw [whole] at reads
    exact ⟨request, known, _, whole, ((reads_mark_iff ⟨request, known, rfl⟩).mp reads).2.1⟩
  · obtain ⟨front, blank, space, rfl, here, blanks⟩ := calls.exists_front
    exact ⟨mark ++ (gap ++ front), blank, space, by simp [matched], here, blanks⟩

theorem Reads.exists_announces {text mark gap call name after : List Char}
    (reads : Reads text mark gap call name after) :
    ∃ matched name after, text = matched ++ after ∧ Announces matched name after := by
  classical
  have some : ∃ n mark gap call name after, Reads text mark gap call name after ∧ gap.length = n :=
    ⟨_, mark, gap, call, name, after, reads, rfl⟩
  -- among all ways to read the text, one with the shortest gap
  obtain ⟨mark, gap, call, name, after, shortest, least⟩ := Nat.find_spec some
  have split : text = mark ++ (gap ++ call) ++ after := by simp [shortest.whole]
  refine ⟨_, name, after, split, mark, gap, call, rfl, split ▸ shortest, ?_⟩
  intro mark' gap' call' name' after' other
  rw [least]
  exact Nat.find_min' some ⟨mark', gap', call', name', after', split ▸ other, rfl⟩

theorem map_filter_eq_flatten {α β : Type} (test : α → Bool) (f : α → β) (items : List α) :
    (items.filter test).map f = (items.map fun item => if test item then [f item] else []).flatten := by
  induction items with
  | nil => rfl
  | cons item items ih => cases kept : test item <;> simp [kept, ih]

theorem checkText_eq {source : String} {found : List (Match (List Char))}
    (stands : ∀ m ∈ found, m.StandsIn Announces source.toList)
    (same : Text.occurrences route? source.toList = found.map Match.occurrence) (subject : Subject) :
    checkText subject source =
      (found.map fun m => if declaresNothing (m.matched ++ m.after) then [missingAt subject m] else []).flatten := by
  have lines : ∀ m ∈ found, (Text.positionOf (Text.bytes source) m.start).line = m.before.count '\n' + 1 := by
    intro m listed
    rw [Text.bytes, (stands m listed).whole]
    exact Text.line_positionOf m.before _
  rw [checkText, same, List.filter_map, List.map_map, map_filter_eq_flatten]
  congr 1
  refine List.map_congr_left fun m listed => ?_
  simp only [Function.comp_apply, Match.occurrence, lines m listed]
  rfl

/-- The routes that a search of the text meets are judged one after the other, each of them once. Every finding is
about one of them; and wherever the text reads like a route outside those before it, one of them begins. -/
theorem checkText_finds_routes (subject : Subject) (source : String) :
    ∃ found : List (Match (List Char)), Text.Successive Announces source.toList found ∧
      found.Pairwise (fun m m' => m.start < m'.start) ∧
      (∃ reports, List.Forall₂ (Reported subject) found reports ∧ checkText subject source = reports.flatten) ∧
      (∀ f ∈ checkText subject source, ∃ m ∈ found, Blames source f m) ∧
      ∀ before text mark gap call name after, source.toList = before ++ text →
        Reads text mark gap call name after →
        (∀ earlier ∈ found, earlier.start < Text.byteLength before → earlier.stop ≤ Text.byteLength before) →
        ∃ m ∈ found, m.before = before ∧ m.matched ++ m.after = text := by
  obtain ⟨found, successive, same⟩ := knows_route.occurrences_eq source.toList
  have stands : ∀ m ∈ found, m.StandsIn Announces source.toList := fun m listed => ((successive.mem_iff m).mp listed).1
  have whole := checkText_eq stands same subject
  refine ⟨found, successive, ?_, ⟨_, ?_, whole⟩, ?_, ?_⟩
  · refine successive.apart.imp_of_mem ?_
    intro m m' listed _ apart
    have filled := Text.byteLength_pos (knows_route.filled _ _ _ (stands m listed).fits)
    rw [Match.stop, Text.byteLength_append] at apart
    rw [Match.start]
    omega
  · rw [List.forall₂_map_right_iff, List.forall₂_same]
    exact fun m _ => Finding.givenWhen_ite _ declaresNothing_iff
  · intro f member
    rw [whole] at member
    simp only [List.mem_flatten, List.mem_map, exists_exists_and_eq_and, List.mem_ite_nil_right,
      List.mem_singleton] at member
    obtain ⟨m, listed, untyped, rfl⟩ := member
    exact ⟨m, listed, blames_missingAt (stands m listed) (declaresNothing_iff.mp untyped) subject⟩
  · intro before text mark gap call name after split reads outside
    obtain ⟨matched, name, after, rfl, announces⟩ := reads.exists_announces
    exact ⟨⟨before, matched, after, name⟩, (successive.mem_iff _).mpr ⟨⟨split, announces⟩, outside⟩, rfl, rfl⟩

/-- The second mark lies within the first match, the third method declares a type, the fourth mark is none, and the
last one calls `async` itself. -/
def crowded : String := "é@Get('x y') @Put()\n async  a (\x7b\n@Post() b(): X \x7b@Getter c(@Head async("

theorem checkText_finds_crowded_routes :
    (checkText (.ofPath "a.controller.ts") crowded).map (fun f => (f.line, f.column, f.message)) =
        [(some 1, none, fallbackMessage "a"), (some 3, none, fallbackMessage "async")] ∧
      ∃ found : List (Match (List Char)), Text.Successive Announces crowded.toList found ∧
        found.Pairwise (fun m m' => m.start < m'.start) ∧
        (∃ reports, List.Forall₂ (Reported (.ofPath "a.controller.ts")) found reports ∧
          checkText (.ofPath "a.controller.ts") crowded = reports.flatten) ∧
        (∀ f ∈ checkText (.ofPath "a.controller.ts") crowded, ∃ m ∈ found, Blames crowded f m) ∧
        ∀ before text mark gap call name after, crowded.toList = before ++ text →
          Reads text mark gap call name after →
          (∀ earlier ∈ found, earlier.start < Text.byteLength before → earlier.stop ≤ Text.byteLength before) →
          ∃ m ∈ found, m.before = before ∧ m.matched ++ m.after = text :=
  ⟨by decide +kernel, checkText_finds_routes _ _⟩

/-! One route, its mark on a line of its own -/

def handler (request : String) (argument name parameters : List Char) : List Char :=
  '@' :: request.toList ++ ('(' :: argument ++ [')']) ++ ('\n' :: name ++ ['(']) ++ (parameters ++ [')', ' ', '\x7b'])

/-- Neither a line feed nor an at sign, no brace and no parenthesis. -/
def Inner (text : List Char) : Prop := ∀ c ∈ text, c ∉ ['\n', '@', '\x7b', '\x7d', '(', ')']

instance (text : List Char) : Decidable (Inner text) := List.decidableBAll _ _

theorem Inner.not_mem {text : List Char} (inner : Inner text) {c : Char}
    (special : c ∈ ['\n', '@', '\x7b', '\x7d', '(', ')']) : c ∉ text := fun member => inner c member special

/-- A call ends with the only parenthesis in it, and no closing one is in it. -/
theorem Calls.parentheses {call name : List Char} (calls : Calls call name) : '(' ∈ call ∧ ')' ∉ call := by
  have blank : Text.isBlank ')' = false := by decide
  have outside {text : List Char} (blanks : ∀ c ∈ text, Text.isBlank c = true) : ')' ∉ text := by
    intro member
    rw [blanks _ member] at blank
    cases blank
  have word := Text.not_mem_of_isIdentifier calls.identifier (show Text.isIdentPart ')' = false by decide)
  obtain ⟨blanks, lead, space, rfl, some, rfl | ⟨more, rfl, filled⟩, spaces⟩ := calls.reads
  · simp [word, outside some.2, outside spaces]
  · simp [word, outside some.2, outside filled.2, outside spaces]

theorem calls_line {name : List Char} (identifier : Text.IsIdentifier name) : Calls ('\n' :: name ++ ['(']) name :=
  ⟨identifier, ['\n'], [], [], by simp, ⟨List.cons_ne_nil _ _, List.all_eq_true.mp (by decide)⟩, .inl rfl, by simp⟩

/-- A call that is not closed comes to its end before the text is closed. -/
theorem Calls.exists_append {call name : List Char} (calls : Calls call name) {after inner rest : List Char}
    (same : call ++ after = inner ++ ')' :: rest) : ∃ more, inner = call ++ more := by
  rcases List.append_eq_append_iff.mp same with ⟨more, longer, _⟩ | ⟨more, longer, closed⟩
  · exact ⟨more, longer⟩
  · cases more with
    | nil => exact ⟨[], by simpa using longer.symm⟩
    | cons c more =>
      obtain ⟨rfl, _⟩ := List.cons.inj closed
      exact absurd (by simp [longer]) calls.parentheses.2

/-- The call on the next line is the first one, since a call within the argument would have to be closed there. -/
theorem announces_handler {request : String} (known : request ∈ requests) {argument name : List Char}
    (argued : Inner argument) (identifier : Text.IsIdentifier name) (parameters : List Char) :
    Announces ('@' :: request.toList ++ ('(' :: argument ++ [')']) ++ ('\n' :: name ++ ['('])) name
      (parameters ++ [')', ' ', '\x7b']) := by
  have isMark : IsMark ('@' :: request.toList) := ⟨request, known, rfl⟩
  have reads : Reads ('@' :: request.toList ++ (('(' :: argument ++ [')']) ++ (('\n' :: name ++ ['(']) ++
      (parameters ++ [')', ' ', '\x7b'])))) ('@' :: request.toList) ('(' :: argument ++ [')']) ('\n' :: name ++ ['('])
      name (parameters ++ [')', ' ', '\x7b']) := by
    refine ⟨rfl, isMark, ?_, ?_, calls_line identifier⟩
    · intro c first
      cases first
      decide +kernel
    · have none := argued.not_mem (show '\n' ∈ _ by decide)
      simp [none]
  refine ⟨_, _, _, List.append_assoc _ _ _, ?_, ?_⟩
  · simpa only [List.append_assoc] using reads
  · intro mark' gap' call' name' after' other
    simp only [List.append_assoc] at other
    obtain ⟨rfl, _, whole, _, calls⟩ := (reads_mark_iff isMark).mp other
    rw [← List.append_assoc, List.append_assoc ('(' :: argument)] at whole
    rcases List.append_eq_append_iff.mp whole with ⟨more, rfl, rest⟩ | ⟨inner, shorter, rest⟩
    · cases more with
      | nil =>
        obtain ⟨c, _, rfl, blank⟩ := calls.exists_blank
        obtain ⟨rfl, _⟩ := List.cons.inj rest
        exact absurd blank (by decide)
      | cons c more => simp
    · -- the gap ends within the argument, so a call in it would have to open and end there
      obtain ⟨more, rfl⟩ := calls.exists_append rest
      cases gap' with
      | nil =>
        obtain ⟨c, _, rfl, blank⟩ := calls.exists_blank
        cases shorter
        exact absurd blank (by decide)
      | cons c gap =>
        obtain ⟨rfl, rfl⟩ := List.cons.inj shorter
        exact absurd (by simp [calls.parentheses.1]) (argued.not_mem (show '(' ∈ _ by decide))

theorem route?_eq_none {text : List Char} (plain : ∀ c ∈ text.head?, c ≠ '@') : route? text = none := by
  have none : afterRequest? text = none := by
    rw [Option.eq_none_iff_forall_ne_some]
    intro rest found
    obtain ⟨_, rfl, ⟨request, _, rfl⟩, _⟩ := afterRequest?_eq_some_iff.mp found
    exact plain '@' rfl rfl
  rw [route?, none, Option.bind_none]

theorem occurrencesFrom_eq_nil {text : List Char} (plain : '@' ∉ text) (offset : Nat) :
    Text.occurrencesFrom route? offset 0 text = [] := by
  induction text generalizing offset with
  | nil => rfl
  | cons c rest ih =>
    rw [List.mem_cons, not_or] at plain
    have none : route? (c :: rest) = none := by
      refine route?_eq_none fun d first => ?_
      cases first
      exact Ne.symm plain.1
    rw [Text.occurrencesFrom_of_none none, ih plain.2]

theorem colon_mem_handler {request : String} (known : request ∈ requests) {argument name parameters : List Char}
    (argued : Inner argument) (identifier : Text.IsIdentifier name) (declared : Inner parameters) :
    declaresNothing (handler request argument name parameters) = false ↔ ':' ∈ argument ∨ ':' ∈ parameters := by
  have plain : ∀ r ∈ requests, '\x7b' ∉ r.toList ∧ ':' ∉ r.toList := by decide
  have brace := Text.not_mem_of_isIdentifier identifier (show Text.isIdentPart '\x7b' = false by decide)
  have colon := Text.not_mem_of_isIdentifier identifier (show Text.isIdentPart ':' = false by decide)
  have front : handler request argument name parameters = ('@' :: request.toList ++ ('(' :: argument ++ [')']) ++
      ('\n' :: name ++ ['(']) ++ (parameters ++ [')', ' '])) ++ ['\x7b'] := by simp [handler]
  have upTo : (handler request argument name parameters).takeWhile (· != '\x7b') =
      '@' :: request.toList ++ ('(' :: argument ++ [')']) ++ ('\n' :: name ++ ['(']) ++ (parameters ++ [')', ' ']) := by
    rw [front]
    refine (Text.span_iff.mpr ⟨rfl, ?_, ?_⟩).1
    · intro c member
      have differs : c ≠ '\x7b' := by
        rintro rfl
        have inArgument := argued.not_mem (show '\x7b' ∈ _ by decide)
        have inParameters := declared.not_mem (show '\x7b' ∈ _ by decide)
        simp [inArgument, inParameters, brace, (plain request known).1] at member
      simpa using differs
    · intro c first
      cases first
      decide
  rw [declaresNothing, upTo]
  simp [(plain request known).2, colon, or_iff_not_imp_left]

/-- A marked method up to its brace is reported just when neither the mark's argument nor the parameters hold a
colon, whatever follows the parameters. -/
theorem checkText_handler (subject : Subject) {request : String} (known : request ∈ requests)
    {argument name parameters : List Char} (argued : Inner argument) (identifier : Text.IsIdentifier name)
    (declared : Inner parameters) :
    checkText subject (String.ofList (handler request argument name parameters)) =
      if ':' ∈ argument ∨ ':' ∈ parameters then []
      else [(tag.finding subject .error (fallbackMessage (String.ofList name))).atLine 1] := by
  have announces := announces_handler known argued identifier parameters
  have found : Text.occurrences route? (handler request argument name parameters) =
      [⟨0, handler request argument name parameters, name⟩] := by
    rw [Text.occurrences, handler, Text.occurrencesFrom_of_some (knows_route.filled _ _ _ announces)
      ((knows_route.matches_iff _ _ _).mpr ⟨_, rfl, announces⟩), occurrencesFrom_eq_nil]
    have none := declared.not_mem (show '@' ∈ _ by decide)
    simp [none]
  have colons := colon_mem_handler known argued identifier declared
  rw [checkText, String.toList_ofList, found, List.filter_singleton]
  split
  · next typed =>
    rw [colons.mpr typed]
    rfl
  · next untyped =>
    rw [← colons, Bool.not_eq_false] at untyped
    rw [untyped]
    rfl

/-- The colon of a route's path hides the missing return type. -/
theorem checkText_handler_with_path :
    String.ofList (handler "Get" "':id'".toList "findOne".toList []) = "@Get(':id')\nfindOne() \x7b" ∧
      checkText (.ofPath "a.controller.ts")
        (String.ofList (handler "Get" "':id'".toList "findOne".toList [])) = [] ∧
      checkText (.ofPath "a.controller.ts") (String.ofList (handler "Get" [] "findOne".toList [])) =
        [(tag.finding (.ofPath "a.controller.ts") .error (fallbackMessage "findOne")).atLine 1] := by
  have known : "Get" ∈ requests := by decide
  have identifier : Text.IsIdentifier "findOne".toList :=
    ⟨'f', "indOne".toList, rfl, by decide, List.all_eq_true.mp (by decide)⟩
  have nothing : Inner [] := fun _ member => absurd member List.not_mem_nil
  have path : Inner "':id'".toList := by decide
  refine ⟨by decide, ?_, ?_⟩
  · exact (checkText_handler _ known path identifier nothing).trans (if_pos (by decide))
  · exact (checkText_handler _ known nothing identifier nothing).trans (if_neg (by decide))

end HouseStyle.ControllerReturn
