import HouseStyle.Proofs.EncodedText
import HouseStyle.Proofs.Policies

/-! A directory can be excluded by its name or by a pattern.

The name is compared with the components of a path before the last one, while the pattern `**/name/**` is matched
against the path as it is shown. There the pattern finds the name where it stands between slashes, or before the first
one. These are the segments before the last one, as they are shown: a slash is a slash to the reader as well, whatever
stands beside it. And in a normal path the segments are the components.
-/

set_option autoImplicit false
namespace HouseStyle

namespace Text

variable {α : Type}

theorem joinWith_append {sep : α} {front back : List (List α)} (some : front ≠ []) (others : back ≠ []) :
    joinWith sep (front ++ back) = joinWith sep front ++ sep :: joinWith sep back := by
  induction front with
  | nil => exact absurd rfl some
  | cons piece rest ih =>
    cases rest with
    | nil =>
      obtain ⟨next, more, rfl⟩ := List.exists_cons_of_ne_nil others
      rfl
    | cons next more =>
      calc joinWith sep (piece :: (next :: more) ++ back)
        _ = piece ++ sep :: joinWith sep (next :: more ++ back) := rfl
        _ = piece ++ sep :: (joinWith sep (next :: more) ++ sep :: joinWith sep back) := by
          rw [ih (List.cons_ne_nil next more)]
        _ = joinWith sep (piece :: next :: more) ++ sep :: joinWith sep back := by simp [joinWith]

/-- The piece begins the text or stands behind a separator, and a separator comes after it. -/
def StandsIn (sep : α) (piece text : List α) : Prop :=
  ∃ back, text = piece ++ sep :: back ∨ ∃ front, text = front ++ sep :: (piece ++ sep :: back)

theorem mem_dropLast_splitAt [BEq α] [LawfulBEq α] {sep : α} {piece text : List α} (free : sep ∉ piece) :
    piece ∈ (splitAt (· == sep) text).dropLast ↔ StandsIn sep piece text := by
  constructor
  · intro member
    obtain ⟨front, between, cut⟩ := List.append_of_mem member
    obtain ⟨back, others, pieces⟩ : ∃ back, back ≠ [] ∧ splitAt (· == sep) text = front ++ piece :: back := by
      refine ⟨between ++ [(splitAt (· == sep) text).getLast (splitAt_ne_nil _ _)], by simp, ?_⟩
      rw [← List.cons_append, ← List.append_assoc, ← cut, List.dropLast_append_getLast]
    -- the pieces before it are put together again in front of it, and those after it behind it
    have here : joinWith sep (piece :: back) = piece ++ sep :: joinWith sep back :=
      joinWith_append (List.cons_ne_nil piece []) others
    rw [← joinWith_splitAt sep text, pieces]
    cases front with
    | nil => exact ⟨_, .inl here⟩
    | cons first rest =>
      rw [joinWith_append (List.cons_ne_nil first rest) (List.cons_ne_nil piece back), here]
      exact ⟨_, .inr ⟨_, rfl⟩⟩
  · rintro ⟨back, rfl | ⟨front, rfl⟩⟩
    · rw [splitAt_append, splitAt_of_free free, List.dropLast_append_of_ne_nil (splitAt_ne_nil _ _)]
      exact List.mem_append_left _ (List.mem_singleton_self piece)
    · rw [splitAt_append, splitAt_append, splitAt_of_free free, List.dropLast_append_of_ne_nil (by simp),
        List.dropLast_append_of_ne_nil (splitAt_ne_nil _ _)]
      exact List.mem_append_right _ (List.mem_append_left _ (List.mem_singleton_self piece))

theorem toList_decodeLossy_joinWith {b : UInt8} (ascii : b < 0x80) {pieces : List Bytes} (some : pieces ≠ []) :
    (decodeLossy (joinWith b pieces)).toList =
      joinWith (Char.ofNat b.toNat) (pieces.map fun piece => (decodeLossy piece).toList) := by
  induction pieces with
  | nil => exact absurd rfl some
  | cons piece rest ih =>
    cases rest with
    | nil => rfl
    | cons next more =>
      have later := ih (List.cons_ne_nil next more)
      calc (decodeLossy (joinWith b (piece :: next :: more))).toList
          = (decodeLossy (piece ++ b :: joinWith b (next :: more))).toList := by simp [joinWith]
        _ = (decodeLossy piece).toList ++ Char.ofNat b.toNat :: (decodeLossy (joinWith b (next :: more))).toList :=
          toList_decodeLossy_append ascii ..
        _ = _ := by simp [later, joinWith]

/-- Cutting what is shown, and showing the pieces, come to the same. -/
theorem splitAt_decodeLossy {b : UInt8} (ascii : b < 0x80) (content : Bytes) :
    splitAt (· == Char.ofNat b.toNat) (decodeLossy content).toList =
      (splitAt (· == b) content).map fun piece => (decodeLossy piece).toList := by
  have some := splitAt_ne_nil (· == b) content
  have free : ∀ shown ∈ (splitAt (· == b) content).map fun piece => (decodeLossy piece).toList,
      Char.ofNat b.toNat ∉ shown := by
    intro shown member
    obtain ⟨piece, inside, rfl⟩ := List.mem_map.mp member
    rw [mem_decodeLossy_iff ascii]
    exact free_of_mem_splitAt inside
  conv =>
    lhs
    rw [← joinWith_splitAt b content, toList_decodeLossy_joinWith ascii some]
  exact splitAt_joinWith (by simpa using some) free

end Text

namespace Glob

/-! The pattern of a directory -/

/-- Any directories, the name, and anything below it. -/
def below (name : List Char) : Pattern :=
  .anyDirectories :: ((name ++ ['/']).map .literal ++ [.anyDirectories])

/-- No character of the name means anything but itself in a pattern. -/
def IsPlain (name : List Char) : Prop := '*' ∉ name ∧ '?' ∉ name ∧ '[' ∉ name

theorem tokens_literal {c : Char} (plain : IsPlain [c]) {fuel index : Nat} {rest : List Char} {more : Pattern}
    (after : tokens fuel (index + 1) (c == '/') rest = .ok more) (fresh : Bool) :
    tokens (fuel + 1) index fresh (c :: rest) = .ok (.literal c :: more) := by
  obtain ⟨star, question, bracket⟩ := plain
  rw [List.mem_singleton] at star question bracket
  rw [tokens, after]
  · rfl
  · exact fun same => question same.symm
  · exact fun same => star same.symm
  · exact fun same => bracket same.symm

/-- A plain name and its slash are read character by character, and a pattern begins anew behind them. -/
theorem tokens_name {name : List Char} (plain : IsPlain name) {fuel index : Nat} {rest : List Char} {more : Pattern}
    (after : tokens fuel (index + name.length + 1) true rest = .ok more) (fresh : Bool) :
    tokens (name.length + fuel + 1) index fresh (name ++ '/' :: rest) = .ok ((name ++ ['/']).map .literal ++ more) := by
  induction name generalizing index fresh with
  | nil =>
    rw [List.length_nil, Nat.zero_add]
    exact tokens_literal (by simp [IsPlain]) after fresh
  | cons c name ih =>
    obtain ⟨star, question, bracket⟩ := plain
    simp only [List.mem_cons, not_or] at star question bracket
    have rest := @ih ⟨star.2, question.2, bracket.2⟩ (index + 1)
      (by rw [← after, List.length_cons]; congr 1; omega) (c == '/')
    rw [List.length_cons, show name.length + 1 + fuel + 1 = name.length + fuel + 1 + 1 by omega]
    apply tokens_literal _ rest
    simp [IsPlain, star.1, question.1, bracket.1]

theorem parse_below {name : String} (plain : IsPlain name.toList) :
    parse ("**/" ++ name ++ "/**") = .ok (below name.toList) := by
  have spelled : ("**/" ++ name ++ "/**").toList = '*' :: '*' :: '/' :: (name.toList ++ '/' :: ['*', '*']) := by
    simp
  have last : tokens 4 (3 + name.toList.length + 1) true ['*', '*'] = .ok [.anyDirectories] := rfl
  have inside := tokens_name plain last true
  have first : ∀ fuel text, tokens (fuel + 1) 0 true ('*' :: '*' :: '/' :: text) =
      (do return .anyDirectories :: (← tokens fuel 3 true text)) := fun _ _ => rfl
  have length : ('*' :: '*' :: '/' :: (name.toList ++ '/' :: ['*', '*'])).length = name.toList.length + 4 + 1 + 1 := by
    simp
  rw [parse, spelled, length, first, inside]
  rfl

theorem accepts_literals (word : List Char) (rest : Pattern) (text : List Char) :
    accepts (word.map .literal ++ rest) text = true ↔ ∃ more, text = word ++ more ∧ accepts rest more = true := by
  induction word generalizing text with
  | nil => simp
  | cons c word ih =>
    cases text with
    | nil => simp [accepts]
    | cons d text =>
      simp only [List.map_cons, List.cons_append, accepts, Bool.and_eq_true, beq_iff_eq, ih, List.cons.injEq]
      constructor
      · rintro ⟨rfl, more, rfl, accepted⟩
        exact ⟨more, ⟨rfl, rfl⟩, accepted⟩
      · rintro ⟨more, ⟨rfl, rfl⟩, accepted⟩
        exact ⟨rfl, more, rfl, accepted⟩

theorem afterSlash_iff (k : List Char → Bool) (text : List Char) :
    afterSlash k text = true ↔ k [] = true ∨ ∃ front rest, text = front ++ '/' :: rest ∧ k rest = true := by
  induction text with
  | nil => simp [afterSlash]
  | cons c text ih =>
    rw [afterSlash, Bool.or_eq_true, Bool.and_eq_true, beq_iff_eq, ih]
    constructor
    · rintro (⟨rfl, accepted⟩ | empty | ⟨front, rest, rfl, accepted⟩)
      · exact .inr ⟨[], text, rfl, accepted⟩
      · exact .inl empty
      · exact .inr ⟨c :: front, rest, rfl, accepted⟩
    · rintro (empty | ⟨front, rest, cut, accepted⟩)
      · exact .inr (.inl empty)
      · cases front with
        | nil =>
          cases cut
          exact .inl ⟨rfl, accepted⟩
        | cons d front =>
          cases cut
          exact .inr (.inr ⟨front, rest, rfl, accepted⟩)

theorem accepts_anything (text : List Char) : accepts [.anyDirectories] text = true := by
  rw [accepts, Bool.or_eq_true, afterSlash_iff]
  exact .inr (.inl rfl)

theorem accepts_below_iff (name text : List Char) : accepts (below name) text = true ↔ Text.StandsIn '/' name text := by
  have here : ∀ text, accepts ((name ++ ['/']).map .literal ++ [.anyDirectories]) text = true ↔
      ∃ back, text = name ++ '/' :: back := by
    intro text
    rw [accepts_literals]
    simp [accepts_anything]
  rw [below, accepts, Bool.or_eq_true, afterSlash_iff, here, here, Text.StandsIn]
  constructor
  · rintro (⟨back, rfl⟩ | ⟨back, empty⟩ | ⟨front, rest, rfl, accepted⟩)
    · exact ⟨back, .inl rfl⟩
    · simp at empty
    · obtain ⟨back, rfl⟩ := (here rest).mp accepted
      exact ⟨back, .inr ⟨front, rfl⟩⟩
  · rintro ⟨back, rfl | ⟨front, rfl⟩⟩
    · exact .inl ⟨back, rfl⟩
    · exact .inr (.inr ⟨front, _, rfl, (here _).mpr ⟨back, rfl⟩⟩)

end Glob

namespace Path

theorem segment_eq_iff {c : Component} (step : IsStep c) {name : Segment} (isName : IsName name) :
    c.segment = name ↔ c = .name name := by
  constructor
  · intro same
    rw [← component_segment step, same]
    exact component_segment (c := .name name) isName
  · rintro rfl
    rfl

theorem mem_map_segment_iff {cs : List Component} (isStep : ∀ c ∈ cs, IsStep c) {name : Segment}
    (isName : IsName name) : name ∈ cs.map Component.segment ↔ .name name ∈ cs := by
  rw [List.mem_map]
  constructor
  · rintro ⟨c, member, same⟩
    rwa [← (segment_eq_iff (isStep c member) isName).mp same]
  · intro member
    exact ⟨_, member, rfl⟩

theorem normal_of_no_steps {p : Path} (normal : p.normalize = p) (none : p.steps = []) :
    p = ⟨[dot]⟩ ∨ p = ⟨[slash]⟩ := by
  rw [← normal, normalize_eq, anchor, none]
  cases p.isAbsolute with
  | true => exact .inr rfl
  | false => exact .inl rfl

/-- In a normal path the names of directories are the segments before the last one. -/
theorem mem_dropLast_segments_iff {p : Path} (normal : p.normalize = p) {name : Segment} (isName : IsName name) :
    name ∈ p.segments.dropLast ↔ .name name ∈ p.parents := by
  by_cases none : p.steps = []
  · have top : p.parents = [] ∧ ∀ segment ∈ p.segments.dropLast, segment = [] := by
      rcases normal_of_no_steps normal none with rfl | rfl
      · decide
      · decide
    rw [top.1]
    exact iff_of_false (fun member => isName.1 (top.2 _ member)) List.not_mem_nil
  · have inSteps : .name name ∈ p.parents ↔ .name name ∈ p.steps.dropLast := by
      rw [parents_eq none, List.mem_append]
      exact or_iff_right not_name_of_mem_start
    have isStep : ∀ c ∈ p.steps.dropLast, IsStep c := fun c member => isStep_of_mem (List.dropLast_subset _ member)
    rw [inSteps, ← mem_map_segment_iff isStep isName, List.map_dropLast]
    cases absolute : p.isAbsolute with
    | true =>
      rw [segments_of_normal_root normal absolute none, List.dropLast_cons_of_ne_nil (by simpa using none),
        List.mem_cons]
      exact or_iff_right isName.1
    | false => rw [segments_of_normal normal absolute none]

/-- What is shown as a name is one. -/
theorem isName_of_shown {segment : Segment} {name : String} (isName : IsName name)
    (shown : Text.decodeLossy segment = name) : IsName segment := by
  subst shown
  refine ⟨?_, ?_, ?_, fun inside => isName.2.2.2 ?_⟩
  · rintro rfl
    exact isName.1 (by decide +kernel)
  · rintro rfl
    exact isName.2.1 (by decide +kernel)
  · rintro rfl
    exact isName.2.2.1 (by decide +kernel)
  · exact (Text.mem_bytes_iff (by decide) _).mpr ((Text.mem_decodeLossy_iff (by decide) _).mpr inside)

theorem mem_directories_iff {p : Path} (normal : p.normalize = p) {name : String} (isName : IsName name) :
    name ∈ p.directories ↔ name.toList ∈ (Text.splitAt (· == '/') p.display.toList).dropLast := by
  have cut : Text.splitAt (· == '/') p.display.toList =
      p.segments.map fun segment => (Text.decodeLossy segment).toList :=
    Text.splitAt_decodeLossy (b := slash) (by decide) p.bytes
  rw [mem_directories, cut, ← List.map_dropLast, List.mem_map]
  constructor
  · rintro ⟨segment, member, shown⟩
    exact ⟨segment, (mem_dropLast_segments_iff normal (isName_of_shown isName shown)).mpr member,
      congrArg String.toList shown⟩
  · rintro ⟨segment, member, shown⟩
    have shown := String.toList_inj.mp shown
    exact ⟨segment, (mem_dropLast_segments_iff normal (isName_of_shown isName shown)).mp member, shown⟩

end Path

namespace Policy

/-! One more entry -/

/-- The second list has the entries of the first and one more, wherever it stands. -/
def Adds (entry : String) (old new : List String) : Prop :=
  ∀ other, other ∈ new ↔ other = entry ∨ other ∈ old

theorem Adds.forall_mem_iff {entry : String} {old new : List String} (adds : Adds entry old new)
    {holds : String → Prop} : (∀ other ∈ new, holds other) ↔ (∀ other ∈ old, holds other) ∧ holds entry := by
  constructor
  · intro all
    exact ⟨fun other listed => all other ((adds other).mpr (.inr listed)), all entry ((adds entry).mpr (.inl rfl))⟩
  · rintro ⟨all, last⟩ other listed
    rcases (adds other).mp listed with rfl | listed
    · exact last
    · exact all other listed

section
variable {settings : SelectionSettings} {policy other : Policy}

/-- A further pattern excludes what it accepts, and changes nothing else. -/
theorem Follows.accepts_of_adds_pattern (follows : policy.Follows settings) {text : String} {patterns : List String}
    (adds : Adds text settings.excluded patterns) {pattern : Glob.Pattern} (read : Glob.parse text = .ok pattern)
    (extended : other.Follows { settings with excluded := patterns }) (path : Path) :
    other.accepts path = (policy.accepts path && !Glob.accepts pattern path.display.toList) := by
  have last : (∀ known, Glob.parse text = .ok known → Glob.accepts known path.display.toList = false) ↔
      Glob.accepts pattern path.display.toList = false := by
    simp [read]
  rw [Bool.eq_iff_iff, Bool.and_eq_true, Bool.not_eq_true', extended.accepts_iff, follows.accepts_iff,
    adds.forall_mem_iff, last]
  simp only [and_assoc]

/-- A further name excludes what lies in a directory of that name, and changes nothing else. -/
theorem Follows.accepts_of_adds_name (follows : policy.Follows settings) {name : String} {directories : List String}
    (adds : Adds name settings.excludedDirectories directories)
    (extended : other.Follows { settings with excludedDirectories := directories }) (path : Path) :
    other.accepts path = (policy.accepts path && !path.directories.contains name) := by
  rw [Bool.eq_iff_iff, Bool.and_eq_true, Bool.not_eq_true', extended.accepts_iff, follows.accepts_iff,
    adds.forall_mem_iff, ← Bool.not_eq_true (path.directories.contains _), List.contains_iff_mem]
  constructor
  · rintro ⟨extension, suffixes, ⟨outside, apart⟩, free⟩
    exact ⟨⟨extension, suffixes, outside, free⟩, apart⟩
  · rintro ⟨⟨extension, suffixes, outside, free⟩, apart⟩
    exact ⟨extension, suffixes, ⟨outside, apart⟩, free⟩

end

/-- To exclude a directory by the pattern of what lies below it has the effect of excluding it by its name: of the
normal paths that were accepted, those stay that do not lead through a directory of that name. -/
theorem accepts_without_directory {settings : SelectionSettings} {policy : Policy}
    (valid : ofSettings settings = .ok policy) {directory : String} (isName : Path.IsName directory)
    (plain : Glob.IsPlain directory.toList) {patterns directories : List String}
    (addsPattern : Adds ("**/" ++ directory ++ "/**") settings.excluded patterns)
    (addsName : Adds directory settings.excludedDirectories directories) :
    ∃ byPattern byName, ofSettings { settings with excluded := patterns } = .ok byPattern ∧
      ofSettings { settings with excludedDirectories := directories } = .ok byName ∧
      ∀ path : Path, path.normalize = path →
        byPattern.accepts path = byName.accepts path ∧
          byName.accepts path = (policy.accepts path && !path.directories.contains directory) := by
  have follows := ofSettings_eq_ok_iff.mp valid
  have read := Glob.parse_below plain
  have readable := (Glob.exists_reads_iff settings.excluded).mp ⟨_, follows.patterns⟩
  obtain ⟨excluded, reads⟩ :=
    (Glob.exists_reads_iff patterns).mpr (addsPattern.forall_mem_iff.mpr ⟨readable, _, read⟩)
  have byPattern : ({ policy with excluded } : Policy).Follows { settings with excluded := patterns } :=
    ⟨follows.extension, follows.directories, follows.suffixes, reads⟩
  have byName : ({ policy with excludedDirectories := directories } : Policy).Follows
      { settings with excludedDirectories := directories } :=
    ⟨follows.extension, rfl, follows.suffixes, follows.patterns⟩
  refine ⟨_, _, ofSettings_eq_ok_iff.mpr byPattern, ofSettings_eq_ok_iff.mpr byName, ?_⟩
  intro path normal
  have inDirectory : Glob.accepts (Glob.below directory.toList) path.display.toList =
      path.directories.contains directory := by
    have free : '/' ∉ directory.toList :=
      fun inside => isName.2.2.2 ((Text.mem_bytes_iff (b := Path.slash) (by decide) directory).mpr inside)
    rw [Bool.eq_iff_iff, Glob.accepts_below_iff, List.contains_iff_mem, Path.mem_directories_iff normal isName]
    exact (Text.mem_dropLast_splitAt free).symm
  rw [follows.accepts_of_adds_pattern addsPattern read byPattern, follows.accepts_of_adds_name addsName byName,
    inDirectory]
  exact ⟨rfl, rfl⟩

/-- Names that begin or end like the directory's, and a file of its name, are no directories of that name. -/
theorem accepts_without_directory_generated :
    ∃ byPattern byName, ofSettings { excluded := ["**/gen/**"] } = .ok byPattern ∧
      ofSettings { excludedDirectories := ["node_modules", "gen", "dist", "build", ".git"] } = .ok byName ∧
      byPattern.accepts "/a/gen/b/gen/A.ts" = byName.accepts "/a/gen/b/gen/A.ts" ∧
      byName.accepts "/a/gen/b/gen/A.ts" = false ∧
      byPattern.accepts "xgen/genx/gen.ts" = byName.accepts "xgen/genx/gen.ts" ∧
      byName.accepts "xgen/genx/gen.ts" = true := by
  have valid : ofSettings {} =
      .ok ⟨"ts", ["node_modules", "dist", "build", ".git"], [".spec.ts", ".test.ts"], []⟩ := rfl
  have plain : Glob.IsPlain "gen".toList := ⟨by decide, by decide, by decide⟩
  have addsPattern : Adds ("**/" ++ "gen" ++ "/**") [] ["**/gen/**"] := fun _ => by simp
  have addsName : Adds "gen" ["node_modules", "dist", "build", ".git"]
      ["node_modules", "gen", "dist", "build", ".git"] := fun _ => by simp; tauto
  obtain ⟨byPattern, byName, builtPattern, builtName, same⟩ :=
    accepts_without_directory valid (by decide) plain addsPattern addsName
  obtain ⟨insideAlike, insideKept⟩ := same "/a/gen/b/gen/A.ts" (by decide)
  obtain ⟨outsideAlike, outsideKept⟩ := same "xgen/genx/gen.ts" (by decide)
  exact ⟨byPattern, byName, builtPattern, builtName, insideAlike, insideKept.trans (by decide +kernel),
    outsideAlike, outsideKept.trans (by decide +kernel)⟩

end Policy

end HouseStyle
