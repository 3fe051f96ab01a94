import HouseStyle.Proofs.EncodedText
import HouseStyle.Proofs.PathJoining
import HouseStyle.Proofs.TextMatches
import HouseStyle.Report.Text

/-! What a terminal shows of a text, and where the text leads.

Between the characters to show, a text may hold sequences that set the address the text behind them leads to, or its
style. A reader sees what is left without them. The text of a report with links is built from pieces that each close
what they open, so it is read piece by piece: it looks as it does without links, and each place leads to its file.
-/

set_option autoImplicit false
namespace HouseStyle

namespace Terminal

/-- The character that every sequence begins with. -/
def escape : Char := '\x1b'

def addressMark : List Char := [escape, ']', '8', ';', ';']

def addressEnd : List Char := [escape, '\\']

def styleMark : List Char := [escape, '[']

inductive Signal where
  | shown (c : Char)
  /-- The text from here on leads to the address, or nowhere if it is empty. -/
  | link (address : List Char)
  | style (digits : List Char)
  deriving DecidableEq, Repr

/-- An address goes on to the first end mark. -/
def address? : Text.Matcher (List Char)
  | [] => none
  | c :: rest =>
    match Text.after? addressEnd (c :: rest) with
    | some after => some ([], after)
    | none => (address? rest).map fun (address, after) => (c :: address, after)

def digits? (text : List Char) : Option (List Char × List Char) :=
  (Text.after? ['m'] (text.dropWhile Text.isAsciiDigit)).map (text.takeWhile Text.isAsciiDigit, ·)

/-- A whole sequence at the front of a text. -/
def sequence? (text : List Char) : Option (Signal × List Char) :=
  match Text.after? addressMark text with
  | some rest => (address? rest).map fun (address, after) => (.link address, after)
  | none =>
    match Text.after? styleMark text with
    | some rest => (digits? rest).map fun (digits, after) => (.style digits, after)
    | none => none

/-- What is not part of a sequence is shown. -/
def signal? : Text.Matcher Signal
  | [] => none
  | c :: rest => some ((sequence? (c :: rest)).getD (.shown c, rest))

def signals (text : List Char) : List Signal :=
  (Text.occurrences signal? text).map (·.value)

def Signal.shown? : Signal → Option Char
  | .shown c => some c
  | _ => none

def Signal.isLink : Signal → Bool
  | .link _ => true
  | _ => false

/-- The characters that are shown. -/
def seen (found : List Signal) : List Char := found.filterMap Signal.shown?

structure Link where
  address : String
  text : String
  deriving DecidableEq, Repr

/-- A link goes on to the next one, and an empty address only ends it. -/
def followed : List Signal → List Link
  | [] => []
  | .link address :: rest =>
    if address = [] then followed rest
    else ⟨String.ofList address, String.ofList (seen (rest.takeWhile (!·.isLink)))⟩ :: followed rest
  | _ :: rest => followed rest

/-- The text without the sequences. -/
def visible (text : String) : String := String.ofList (seen (signals text.toList))

def links (text : String) : List Link := followed (signals text.toList)

/-- A text without a character that could begin a sequence. -/
def IsPlain (text : String) : Prop := escape ∉ text.toList

instance (text : String) : Decidable (IsPlain text) := inferInstanceAs (Decidable (_ ∉ _))

theorem IsPlain.append {first second : String} (plain : IsPlain first) (plain' : IsPlain second) :
    IsPlain (first ++ second) := by
  rw [IsPlain, String.toList_append, List.mem_append]
  exact not_or.mpr ⟨plain, plain'⟩

theorem isPlain_toString (n : Nat) : IsPlain (toString n) := by
  intro inside
  have digits : (toString n).toList = Nat.toDigits 10 n := by simp
  rw [digits] at inside
  have isDigit := Nat.isDigit_of_mem_toDigits (by decide) (by decide) inside
  revert isDigit
  decide

/-! Signals one after the other -/

theorem signals_cons {matched rest : List Char} {signal : Signal} (filled : matched ≠ [])
    (found : signal? (matched ++ rest) = some (signal, rest)) :
    signals (matched ++ rest) = signal :: signals rest := by
  rw [signals, Text.occurrences, Text.occurrencesFrom_of_some filled found, List.map_cons]
  exact congrArg (signal :: ·) (Text.map_value_occurrencesFrom _ _ _ _)

theorem after?_of_ne {c : Char} (plain : c ≠ escape) (word rest : List Char) :
    Text.after? (escape :: word) (c :: rest) = none := by
  simp [Text.after?, plain.symm]

theorem signals_plain {text : List Char} (plain : escape ∉ text) (rest : List Char) :
    signals (text ++ rest) = text.map .shown ++ signals rest := by
  induction text with
  | nil => rfl
  | cons c later ih =>
    have other : c ≠ escape := fun same => plain (same ▸ List.mem_cons_self)
    -- no sequence begins here, whatever the rest holds
    have first : signal? ([c] ++ (later ++ rest)) = some (.shown c, later ++ rest) := by
      rw [List.singleton_append, signal?, sequence?, addressMark, styleMark, after?_of_ne other, after?_of_ne other]
      rfl
    calc signals ([c] ++ (later ++ rest)) = .shown c :: signals (later ++ rest) :=
          signals_cons (List.cons_ne_nil _ _) first
      _ = .shown c :: (later.map .shown ++ signals rest) := by
          rw [ih fun inside => plain (List.mem_cons_of_mem c inside)]

theorem address?_append {address : List Char} (plain : escape ∉ address) (rest : List Char) :
    address? (address ++ (addressEnd ++ rest)) = some (address, rest) := by
  induction address with
  | nil => rfl
  | cons c later ih =>
    have other : c ≠ escape := fun same => plain (same ▸ List.mem_cons_self)
    rw [List.cons_append, address?, addressEnd, after?_of_ne other]
    dsimp only
    rw [← addressEnd, ih fun inside => plain (List.mem_cons_of_mem c inside)]
    rfl

theorem digits?_append {digits : List Char} (each : digits.all Text.isAsciiDigit = true) (rest : List Char) :
    digits? (digits ++ 'm' :: rest) = some (digits, rest) := by
  have stops : ∀ c ∈ ('m' :: rest).head?, Text.isAsciiDigit c = false := by
    rintro c ⟨⟩
    decide
  obtain ⟨taken, left⟩ := Text.span_iff.mpr ⟨rfl, List.all_eq_true.mp each, stops⟩
  rw [digits?, taken, left, Text.after?_eq_some_iff.mpr (List.singleton_append).symm]
  rfl

theorem sequence?_link {address : List Char} (plain : escape ∉ address) (rest : List Char) :
    sequence? (addressMark ++ (address ++ (addressEnd ++ rest))) = some (.link address, rest) := by
  rw [sequence?, Text.after?_eq_some_iff.mpr rfl]
  dsimp only
  rw [address?_append plain]
  rfl

theorem sequence?_style {digits : List Char} (each : digits.all Text.isAsciiDigit = true) (rest : List Char) :
    sequence? (styleMark ++ (digits ++ 'm' :: rest)) = some (.style digits, rest) := by
  -- both kinds begin with an escape, and the next character tells them apart
  have noAddress : Text.after? addressMark (styleMark ++ (digits ++ 'm' :: rest)) = none := rfl
  rw [sequence?, noAddress, Text.after?_eq_some_iff.mpr rfl]
  dsimp only
  rw [digits?_append each]
  rfl

theorem signals_sequence {c : Char} {later rest : List Char} {signal : Signal}
    (found : sequence? (c :: later ++ rest) = some (signal, rest)) :
    signals (c :: later ++ rest) = signal :: signals rest := by
  apply signals_cons (List.cons_ne_nil c later)
  rw [List.cons_append] at found ⊢
  rw [signal?, found, Option.getD_some]

theorem signals_link {address : List Char} (plain : escape ∉ address) (rest : List Char) :
    signals (addressMark ++ (address ++ (addressEnd ++ rest))) = .link address :: signals rest := by
  have found := sequence?_link plain rest
  rw [← List.append_assoc, ← List.append_assoc] at found ⊢
  exact signals_sequence found

theorem signals_style {digits : List Char} (each : digits.all Text.isAsciiDigit = true) (rest : List Char) :
    signals (styleMark ++ (digits ++ 'm' :: rest)) = .style digits :: signals rest := by
  have found := sequence?_style each rest
  rw [← List.singleton_append, ← List.append_assoc, ← List.append_assoc] at found ⊢
  exact signals_sequence found

def styled (text : String) : List Signal :=
  .style ['3', '4'] :: .style ['4'] :: text.toList.map .shown ++ [.style ['0']]

/-- What a terminal takes from a text that leads to an address. -/
def linkSignals (address text : String) : List Signal :=
  .link address.toList :: styled text ++ [.link []]

theorem signals_linked {address text : String} (plainAddress : IsPlain address) (plainText : IsPlain text)
    (rest : List Char) :
    signals ((Locator.linked address text).toList ++ rest) = linkSignals address text ++ signals rest := by
  have spelled : (Locator.linked address text).toList ++ rest =
      addressMark ++ (address.toList ++ (addressEnd ++ (styleMark ++ (['3', '4'] ++ 'm' :: (styleMark ++
        (['4'] ++ 'm' :: (text.toList ++ (styleMark ++ (['0'] ++ 'm' ::
          (addressMark ++ ([] ++ (addressEnd ++ rest)))))))))))) := by
    unfold Locator.linked
    simp only [String.toList_append, List.append_assoc]
    rfl
  rw [spelled, signals_link plainAddress, signals_style (by decide), signals_style (by decide),
    signals_plain plainText, signals_style (by decide), signals_link (by decide)]
  simp only [linkSignals, styled, List.append_assoc, List.cons_append, List.nil_append]

/-! What is seen and followed -/

theorem seen_append (first second : List Signal) : seen (first ++ second) = seen first ++ seen second :=
  List.filterMap_append

theorem seen_map_shown (text : List Char) : seen (text.map .shown) = text := by
  rw [seen, List.filterMap_map]
  exact List.filterMap_some

theorem seen_styled (text : String) : seen (styled text) = text.toList := by
  have letters : seen (.style ['3', '4'] :: .style ['4'] :: text.toList.map .shown) = text.toList :=
    seen_map_shown text.toList
  rw [styled, seen_append, letters]
  exact List.append_nil _

theorem seen_linkSignals (address text : String) : seen (linkSignals address text) = text.toList := by
  have inside : seen (.link address.toList :: styled text) = text.toList := seen_styled text
  rw [linkSignals, seen_append, inside]
  exact List.append_nil _

theorem followed_map_shown (text : List Char) (rest : List Signal) :
    followed (text.map .shown ++ rest) = followed rest := by
  induction text with
  | nil => rfl
  | cons c later ih => exact ih

theorem followed_styled (text : String) (rest : List Signal) : followed (styled text ++ rest) = followed rest := by
  rw [styled, List.append_assoc]
  exact followed_map_shown text.toList _

theorem isLink_of_mem_styled (text : String) : ∀ signal ∈ styled text, (!signal.isLink) = true := by
  intro signal member
  simp only [styled, List.cons_append, List.mem_cons, List.mem_append, List.mem_map, List.not_mem_nil, or_false]
    at member
  obtain rfl | rfl | ⟨c, -, rfl⟩ | rfl := member <;> rfl

/-- A link holds its own text and no more. -/
theorem followed_linkSignals {address : String} (some : address ≠ "") (text : String) (rest : List Signal) :
    followed (linkSignals address text ++ rest) = ⟨address, text⟩ :: followed rest := by
  have filled : address.toList ≠ [] := by simpa using some
  have held : (styled text ++ .link [] :: rest).takeWhile (!·.isLink) = styled text := by
    rw [List.takeWhile_append_of_pos (isLink_of_mem_styled text), List.takeWhile_cons_of_neg (by decide),
      List.append_nil]
  rw [linkSignals, List.append_assoc, List.cons_append, List.singleton_append, followed, if_neg filled, held,
    seen_styled, followed_styled, followed, if_pos rfl, String.ofList_toList, String.ofList_toList]

/-! Texts piece by piece -/

/-- What a text shows and the links in it. A link that is left open takes in what follows and a sequence that is cut off
goes on there, so this is said for whatever follows. -/
structure Shows (text shown : String) (found : List Link) : Prop where
  visible : ∀ rest, Terminal.visible (text ++ rest) = shown ++ Terminal.visible rest
  links : ∀ rest, Terminal.links (text ++ rest) = found ++ Terminal.links rest

namespace Shows

theorem of_isPlain {text : String} (plain : IsPlain text) : Shows text text [] := by
  refine ⟨fun rest => ?_, fun rest => ?_⟩
  · rw [Terminal.visible, String.toList_append, signals_plain plain, seen_append, seen_map_shown, String.ofList_append,
      String.ofList_toList]
    rfl
  · rw [Terminal.links, String.toList_append, signals_plain plain, followed_map_shown]
    rfl

theorem linked {address text : String} (plainAddress : IsPlain address) (some : address ≠ "")
    (plainText : IsPlain text) : Shows (Locator.linked address text) text [⟨address, text⟩] := by
  refine ⟨fun rest => ?_, fun rest => ?_⟩
  · rw [Terminal.visible, String.toList_append, signals_linked plainAddress plainText, seen_append, seen_linkSignals,
      String.ofList_append, String.ofList_toList]
    rfl
  · rw [Terminal.links, String.toList_append, signals_linked plainAddress plainText, followed_linkSignals some]
    rfl

theorem append {first second shown shown' : String} {found found' : List Link} (shows : Shows first shown found)
    (shows' : Shows second shown' found') : Shows (first ++ second) (shown ++ shown') (found ++ found') := by
  refine ⟨fun rest => ?_, fun rest => ?_⟩
  · rw [String.append_assoc, shows.visible, shows'.visible, String.append_assoc]
  · rw [String.append_assoc, shows.links, shows'.links, List.append_assoc]

theorem join {α : Type} {text shown : α → String} {found : α → List Link} {pieces : List α}
    (each : ∀ piece ∈ pieces, Shows (text piece) (shown piece) (found piece)) :
    Shows (String.join (pieces.map text)) (String.join (pieces.map shown)) (pieces.flatMap found) := by
  induction pieces with
  | nil => exact of_isPlain (List.not_mem_nil : escape ∉ "".toList)
  | cons piece rest ih =>
    have later := ih fun other inside => each other (List.mem_cons_of_mem piece inside)
    rw [List.map_cons, List.map_cons, String.join_cons, String.join_cons, List.flatMap_cons]
    exact (each piece List.mem_cons_self).append later

theorem eq {text shown : String} {found : List Link} (shows : Shows text shown found) :
    Terminal.visible text = shown ∧ Terminal.links text = found := by
  have visible := shows.visible ""
  have links := shows.links ""
  rw [String.append_empty] at visible links
  rw [visible, links]
  exact ⟨String.append_empty, List.append_nil found⟩

end Shows
end Terminal

/-! Places -/

namespace Finding

/-- The path is plain, and so are the words. -/
structure IsPlain (f : Finding) : Prop where
  file : Terminal.IsPlain f.file.display
  rule : Terminal.IsPlain f.rule
  message : Terminal.IsPlain f.message

instance (f : Finding) : Decidable f.IsPlain :=
  decidable_of_iff
    (Terminal.IsPlain f.file.display ∧ Terminal.IsPlain f.rule ∧ Terminal.IsPlain f.message)
    ⟨fun ⟨file, rule, message⟩ => ⟨file, rule, message⟩, fun plain => ⟨plain.file, plain.rule, plain.message⟩⟩

/-- Where the place of a finding leads: to its file, a relative one below the base, and to its line if it has one. -/
def address (base : Path) (f : Finding) : String :=
  "file://" ++ (if f.file.isAbsolute then f.file else base.join f.file).display ++
    f.line.elim "" fun line => ":" ++ toString line

def link (base : Path) (f : Finding) : Terminal.Link := ⟨f.address base, f.locator⟩

theorem IsPlain.locator {f : Finding} (plain : f.IsPlain) : Terminal.IsPlain f.locator := by
  rw [Finding.locator]
  cases f.line with
  | none => exact plain.file
  | some line =>
    have colon : Terminal.IsPlain ":" := by decide
    exact (((plain.file.append colon).append (Terminal.isPlain_toString line)).append colon).append
      (Terminal.isPlain_toString _)

end Finding

theorem Path.isPlain_display_iff {p : Path} : Terminal.IsPlain p.display ↔ 0x1B ∉ p.bytes :=
  not_congr (Text.mem_decodeLossy_iff (b := 0x1B) (by decide) p.bytes)

theorem Path.isPlain_join {p q : Path} (plain : Terminal.IsPlain p.display) (plain' : Terminal.IsPlain q.display) :
    Terminal.IsPlain (p.join q).display := by
  rw [isPlain_display_iff] at plain plain' ⊢
  rw [join]
  split
  · exact plain'
  · split
    · simp [plain, plain']
    · simp [plain, plain', slash]

namespace Locator

theorem target_eq (base : Path) (f : Finding) : target base f = f.address base := by
  have joined : (if f.file.isAbsolute then f.file else base.join f.file) = base.join f.file := by
    split
    · next absolute => exact (Path.join_of_absolute base absolute).symm
    · rfl
  rw [target, Finding.address, joined]
  cases f.line with
  | none => rfl
  | some line => rfl

theorem isPlain_target {base : Path} {f : Finding} (plainBase : Terminal.IsPlain base.display) (plain : f.IsPlain) :
    Terminal.IsPlain (target base f) := by
  have file : Terminal.IsPlain ("file://" ++ (base.join f.file).display) :=
    Terminal.IsPlain.append (by decide) (Path.isPlain_join plainBase plain.file)
  rw [target]
  cases f.line with
  | none => exact file.append (by decide)
  | some line => exact file.append (Terminal.IsPlain.append (by decide) (Terminal.isPlain_toString line))

theorem target_ne (base : Path) (f : Finding) : target base f ≠ "" := by
  intro empty
  rw [target, String.append_assoc, String.append_eq_empty_iff] at empty
  exact absurd empty.1 (by decide)

/-- A place with a link looks as it does without. -/
theorem shows_render {base : Path} {f : Finding} (plainBase : Terminal.IsPlain base.display) (plain : f.IsPlain) :
    Terminal.Shows ((link base).render f) (Locator.plain.render f) [f.link base] := by
  have shows := Terminal.Shows.linked (isPlain_target plainBase plain) (target_ne base f) plain.locator
  rw [Finding.link, ← target_eq]
  exact shows

end Locator

/-! Lines -/

namespace ReportLine

def place? : ReportLine → Option Finding
  | preview f => some f
  | place f => some f
  | _ => none

def IsPlain : ReportLine → Prop
  | file path => Terminal.IsPlain path.display
  | preview f => f.IsPlain
  | detail f => f.IsPlain
  | place f => f.IsPlain
  | _ => True

theorem isPlain_icon (severity : Severity) : Terminal.IsPlain (icon severity) := by
  cases severity with
  | warning => decide
  | error => decide

/-- The words before a place or a message. -/
theorem isPlain_lead {f : Finding} (plain : f.IsPlain) {mark : String} (plainMark : Terminal.IsPlain mark) :
    Terminal.IsPlain ("     " ++ icon f.severity ++ " " ++ f.rule ++ mark) := by
  have blank : Terminal.IsPlain " " := by decide
  have margin : Terminal.IsPlain "     " := by decide
  exact (((margin.append (isPlain_icon f.severity)).append blank).append plain.rule).append plainMark

theorem isPlain_count {words : String} (plain : Terminal.IsPlain words) (count : Nat) :
    Terminal.IsPlain (words ++ toString count) :=
  plain.append (Terminal.isPlain_toString count)

theorem isPlain_write {line : ReportLine} (plain : line.IsPlain) : Terminal.IsPlain (line.write .plain) := by
  cases line with
  | preview f => exact (isPlain_lead plain (by decide)).append plain.locator
  | detail f => exact (isPlain_lead plain (by decide)).append plain.message
  | place f => exact Terminal.IsPlain.append (by decide) plain.locator
  | file path => exact Terminal.IsPlain.append (by decide) plain
  | errors count => exact isPlain_count (by decide) count
  | warnings count => exact isPlain_count (by decide) count
  | totalErrors count => exact isPlain_count (by decide) count
  | totalWarnings count => exact isPlain_count (by decide) count
  | elided count => exact (isPlain_count (by decide) count).append (by decide)
  | _ => decide

theorem write_of_place?_eq_none (locator : Locator) {line : ReportLine} (unplaced : line.place? = none) :
    line.write locator = line.write .plain := by
  cases line with
  | preview f => cases unplaced
  | place f => cases unplaced
  | _ => rfl

/-- A line shows the same with links as without. -/
theorem shows_write {base : Path} (plainBase : Terminal.IsPlain base.display) {line : ReportLine}
    (plain : line.IsPlain) :
    Terminal.Shows (line.write (.link base)) (line.write .plain) (line.place?.toList.map (Finding.link base)) := by
  cases line with
  | preview f =>
    exact (Terminal.Shows.of_isPlain (isPlain_lead plain (by decide))).append (Locator.shows_render plainBase plain)
  | place f =>
    exact (Terminal.Shows.of_isPlain (by decide)).append (Locator.shows_render plainBase plain)
  | _ =>
    rw [write_of_place?_eq_none (.link base) rfl]
    exact .of_isPlain (isPlain_write plain)

end ReportLine

/-! Reports -/

namespace Report

/-- Whatever a text of the report names is plain. -/
def IsPlain (r : Report) : Prop :=
  ∀ g ∈ r.groups, Terminal.IsPlain g.file.display ∧ ∀ f ∈ g.findings, f.IsPlain

instance (r : Report) : Decidable r.IsPlain :=
  inferInstanceAs (Decidable (∀ g ∈ r.groups, Terminal.IsPlain g.file.display ∧ ∀ f ∈ g.findings, f.IsPlain))

/-- The findings whose places are shown: all, or the first of each file. -/
def shown (verbose : Bool) (r : Report) : List Finding :=
  r.groups.flatMap fun g => if verbose then g.findings else g.findings.take previewLimit

theorem places_given (p : Prop) [Decidable p] {line : ReportLine} (unplaced : line.place? = none) :
    (if p then [line] else []).filterMap ReportLine.place? = [] := by
  split
  · exact List.filterMap_cons_none unplaced
  · rfl

theorem places_detailLines (g : Group) : g.detailLines.filterMap ReportLine.place? = g.findings := by
  rw [Group.detailLines]
  induction g.findings with
  | nil => rfl
  | cons f rest ih => exact congrArg (f :: ·) ih

theorem places_previewLines (g : Group) :
    g.previewLines.filterMap ReportLine.place? = g.findings.take previewLimit := by
  rw [Group.previewLines, List.filterMap_append, places_given _ rfl, List.append_nil, List.filterMap_map]
  exact List.filterMap_some

theorem places_groupLines (verbose : Bool) (g : Group) :
    (g.lines verbose).filterMap ReportLine.place? = if verbose then g.findings else g.findings.take previewLimit := by
  rw [Group.lines, List.filterMap_append, List.filterMap_append, List.filterMap_append, places_given _ rfl,
    places_given _ rfl]
  cases verbose with
  | true => exact places_detailLines g
  | false => exact places_previewLines g

/-- The lines with places are those of the findings that are shown, in their order. -/
theorem places_lines (verbose : Bool) (r : Report) :
    (r.lines verbose).filterMap ReportLine.place? = r.shown verbose := by
  rw [lines, hasFindings, shown]
  cases r.groups with
  | nil => rfl
  | cons g rest =>
    have hint : (if verbose then [] else [ReportLine.blank, .hint]).filterMap ReportLine.place? = [] := by
      cases verbose with
      | true => rfl
      | false => rfl
    have groups : ((g :: rest).flatMap (Group.lines verbose)).filterMap ReportLine.place? =
        (g :: rest).flatMap fun g => if verbose then g.findings else g.findings.take previewLimit := by
      rw [List.filterMap_flatMap]
      exact List.flatMap_congr fun g _ => places_groupLines verbose g
    rw [List.isEmpty_cons, Bool.not_false, if_pos rfl, List.filterMap_append, List.filterMap_append,
      List.filterMap_append, hint, groups, List.append_nil]
    exact List.append_nil _

theorem isPlain_given (p : Prop) [Decidable p] {line : ReportLine} (plain : line.IsPlain) :
    ∀ other ∈ if p then [line] else [], other.IsPlain := by
  split
  · exact List.forall_mem_singleton.mpr plain
  · exact List.forall_mem_nil _

theorem isPlain_groupLines {g : Group} (file : Terminal.IsPlain g.file.display) (each : ∀ f ∈ g.findings, f.IsPlain)
    (verbose : Bool) : ∀ line ∈ g.lines verbose, line.IsPlain := by
  have head : ∀ line ∈ [ReportLine.blank, .file g.file], line.IsPlain :=
    List.forall_mem_cons.mpr ⟨trivial, List.forall_mem_singleton.mpr file⟩
  have details : ∀ line ∈ g.detailLines, line.IsPlain := by
    intro line member
    obtain ⟨f, inside, written⟩ := List.mem_flatMap.mp member
    have both : ∀ line ∈ [ReportLine.detail f, .place f], line.IsPlain :=
      List.forall_mem_cons.mpr ⟨each f inside, List.forall_mem_singleton.mpr (each f inside)⟩
    exact both line written
  have previews : ∀ line ∈ g.previewLines, line.IsPlain := by
    refine List.forall_mem_append.mpr ⟨List.forall_mem_map.mpr fun f inside => ?_, isPlain_given _ trivial⟩
    exact each f (List.mem_of_mem_take inside)
  rw [Group.lines, List.forall_mem_append, List.forall_mem_append, List.forall_mem_append]
  refine ⟨⟨⟨head, isPlain_given _ trivial⟩, isPlain_given _ trivial⟩, ?_⟩
  cases verbose with
  | true => exact details
  | false => exact previews

theorem isPlain_lines {r : Report} (plain : r.IsPlain) (verbose : Bool) :
    ∀ line ∈ r.lines verbose, line.IsPlain := by
  have groups : ∀ line ∈ r.groups.flatMap (Group.lines verbose), line.IsPlain := by
    intro line member
    obtain ⟨g, inside, written⟩ := List.mem_flatMap.mp member
    exact isPlain_groupLines (plain g inside).1 (plain g inside).2 verbose line written
  rw [lines]
  split
  · rw [List.forall_mem_append, List.forall_mem_append, List.forall_mem_append]
    refine ⟨⟨⟨?_, groups⟩, ?_⟩, ?_⟩
    · simp [ReportLine.IsPlain]
    · simp [ReportLine.IsPlain]
    · cases verbose with
      | true => exact List.forall_mem_nil _
      | false => simp [ReportLine.IsPlain]
  · exact List.forall_mem_singleton.mpr trivial

/-- Links change nothing of the text that is seen, and the places that are shown lead in order to their files. -/
theorem render_link_reads_as_plain {r : Report} (plain : r.IsPlain) {base : Path}
    (plainBase : Terminal.IsPlain base.display) (verbose : Bool) :
    Terminal.visible (r.render verbose (.link base)) = r.render verbose .plain ∧
      Terminal.links (r.render verbose (.link base)) =
        (r.shown verbose).map fun f => ⟨f.address base, f.locator⟩ := by
  have each : ∀ line ∈ r.lines verbose, Terminal.Shows (line.write (.link base) ++ "\n") (line.write .plain ++ "\n")
      (line.place?.toList.map (Finding.link base)) := by
    intro line member
    have shows := ReportLine.shows_write plainBase (isPlain_lines plain verbose line member)
    have ended := shows.append (.of_isPlain (by decide : Terminal.IsPlain "\n"))
    rwa [List.append_nil] at ended
  obtain ⟨visible, links⟩ := (Terminal.Shows.join each).eq
  refine ⟨visible, links.trans ?_⟩
  rw [← places_lines, List.filterMap_eq_flatMap_toList, List.map_flatMap]
  rfl

/-- A file outside the base keeps its own path. -/
theorem render_link_reads_as_plain_outside_base :
    let inside : Finding := ⟨"naming", "File Naming", "src/a.ts", "wrong", some 3, none, .error⟩
    let outside : Finding := ⟨"naming", "File Naming", "/lib/b.ts", "wrong", none, none, .warning⟩
    let r : Report := ⟨false, 1, 1, 2, [⟨"src/a.ts", [inside]⟩, ⟨"/lib/b.ts", [outside]⟩]⟩
    r.IsPlain ∧ Terminal.visible (r.render true (.link "/work")) = r.render true .plain ∧
      Terminal.links (r.render true (.link "/work")) =
        [⟨"file:///work/src/a.ts:3", "src/a.ts:3:0"⟩, ⟨"file:///lib/b.ts", "/lib/b.ts"⟩] := by
  intro inside outside r
  have plain : r.IsPlain := by decide +kernel
  have base : Terminal.IsPlain (Path.ofText "/work").display := by decide +kernel
  obtain ⟨visible, links⟩ := render_link_reads_as_plain plain base true
  exact ⟨plain, visible, links.trans (by decide +kernel)⟩

end Report
end HouseStyle
