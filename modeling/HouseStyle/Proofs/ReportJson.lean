import HouseStyle.Proofs.EncodedText
import HouseStyle.Proofs.JsonText
import HouseStyle.Report.Json
import Mathlib.Data.List.Forall2

/-! Reports and findings as JSON text, and back.

A record whose fields have different names is read back field by field, and a field that was left out is
read as missing. Only a path that is no text keeps a record from being written. What is read back has counts and
positions below the limit, so those are all that can be asked of a report that is to survive.
-/

set_option autoImplicit false
namespace HouseStyle

/-- What was written item by item is read back item by item. -/
theorem mapM_of_back {α β : Type} {write : β → Option α} {read : α → Option β} {items : List β} {parts : List α}
    (written : items.mapM write = some parts)
    (back : ∀ item ∈ items, ∀ part, write item = some part → read part = some item) :
    parts.mapM read = some items := by
  rw [mapM_eq_some_iff] at written ⊢
  induction written with
  | nil => exact .nil
  | cons first _ ih =>
    exact .cons (back _ List.mem_cons_self _ first) (ih fun item member => back item (List.mem_cons_of_mem _ member))

theorem exists_of_mapM {α β : Type} {write : β → Option α} {items : List β} {parts : List α}
    (written : items.mapM write = some parts) {part : α} (member : part ∈ parts) :
    ∃ item ∈ items, write item = some part := by
  rw [mapM_eq_some_iff] at written
  induction written with
  | nil => cases member
  | @cons item other items parts first _ ih =>
    rcases List.mem_cons.mp member with rfl | later
    · exact ⟨item, List.mem_cons_self, first⟩
    · obtain ⟨found, inside, same⟩ := ih later
      exact ⟨found, List.mem_cons_of_mem _ inside, same⟩

theorem isSome_mapM_iff {α β : Type} {write : β → Option α} {items : List β} :
    (items.mapM write).isSome ↔ ∀ item ∈ items, (write item).isSome := by
  induction items with
  | nil => simp
  | cons item rest ih =>
    rw [List.forall_mem_cons, ← ih, List.mapM_cons]
    cases write item <;> cases rest.mapM write <;> simp

namespace Json

/-! Records -/

/-- The fields of a record: each value under its name, if there is one. -/
def named (names : List String) (values : List (Option Json)) : List (Option (String × Json)) :=
  List.zipWith (fun name value => value.map fun value => (name, value)) names values

theorem filter_named_of_not_mem {names : List String} {name : String} (missing : name ∉ names)
    (values : List (Option Json)) : ((named names values).filterMap id).filter (·.1 == name) = [] := by
  induction names generalizing values with
  | nil => simp [named]
  | cons first names ih =>
    simp only [List.mem_cons, not_or] at missing
    cases values with
    | nil => simp [named]
    | cons value values =>
      have other : ¬ first = name := fun same => missing.1 same.symm
      have later := ih missing.2 values
      cases value with
      | none => simpa [named] using later
      | some value => simpa [named, other] using later

theorem filter_named {names : List String} (distinct : names.Nodup) {values : List (Option Json)} {name : String}
    {value : Option Json} (member : (name, value) ∈ names.zip values) :
    ((named names values).filterMap id).filter (·.1 == name) = value.toList.map fun value => (name, value) := by
  induction names generalizing values with
  | nil => simp at member
  | cons first names ih =>
    rw [List.nodup_cons] at distinct
    cases values with
    | nil => simp at member
    | cons here values =>
      rw [List.zip_cons_cons, List.mem_cons] at member
      rcases member with same | later
      · cases same
        have others := filter_named_of_not_mem distinct.1 values
        cases value with
        | none => simpa [named] using others
        | some value => simpa [named] using others
      · have other : ¬ first = name := by
          rintro rfl
          exact distinct.1 (List.of_mem_zip later).1
        have found := ih distinct.2 later
        cases here with
        | none => simpa [named] using found
        | some here => simpa [named, other] using found

theorem record_eq (fields : List (Option (String × Json))) :
    record fields = object ((fields.filterMap id).map fun field => (some field.1, field.2)) := by
  rewrite [record, List.map_filterMap]
  rfl

theorem fieldsOf?_object (names : List String) (fields : List (String × Json)) :
    fieldsOf? names (object (fields.map fun field => (some field.1, field.2))) = names.mapM (once? fields) := by
  rewrite [fieldsOf?, mapM_eq_some_iff.mpr (List.forall₂_map_left_iff.mpr (List.forall₂_same.mpr ?_))]
  · rfl
  · intro field _
    rfl

/-- A record with different names is read as the values under them. -/
theorem fieldsOf?_record {names : List String} (distinct : names.Nodup) {values : List (Option Json)}
    (full : names.length = values.length) : fieldsOf? names (record (named names values)) = some values := by
  rw [record_eq, fieldsOf?_object, mapM_eq_some_iff, List.forall₂_iff_zip]
  refine ⟨full, fun {name value} member => ?_⟩
  rw [once?, filter_named distinct member]
  cases value <;> rfl

theorem plain_record {names : List String} {values : List (Option Json)}
    (each : ∀ value ∈ values, ∀ v ∈ value, Plain v) : Plain (record (named names values)) := by
  rw [record_eq]
  refine .object (fun field member => ?_) fun field member => ?_
  · obtain ⟨entry, _, rfl⟩ := List.mem_map.mp member
    rfl
  · obtain ⟨entry, written, rfl⟩ := List.mem_map.mp member
    obtain ⟨_, listed, rfl⟩ := List.mem_filterMap.mp written
    obtain ⟨i, inside, same⟩ := List.getElem_of_mem listed
    simp only [named, List.getElem_zipWith] at same
    obtain ⟨w, present, rfl⟩ := Option.map_eq_some_iff.mp same
    exact each _ (List.getElem_mem _) w present

/-! Texts, counts and lists -/

@[simp] theorem asText?_text (text : String) : asText? (.text text) = some text := rfl

theorem asCount?_natural {n : Nat} (small : n < countLimit) : asCount? (.natural n) = some n := if_pos small

theorem lt_of_asCount? {value : Json} {n : Nat} (read : asCount? value = some n) : n < countLimit := by
  cases value with
  | natural m =>
    rw [asCount?] at read
    split at read
    · next small => cases read; exact small
    · cases read
  | _ => cases read

theorem asOptionalCount?_natural {n : Option Nat} (small : ∀ m ∈ n, m < countLimit) :
    asOptionalCount? ((n.map .natural).getD .null) = some n := by
  cases n with
  | none => rfl
  | some m =>
    have read := asCount?_natural (small m rfl)
    simp [asOptionalCount?, read]

theorem lt_of_asOptionalCount? {value : Json} {n : Option Nat} (read : asOptionalCount? value = some n) :
    ∀ m ∈ n, m < countLimit := by
  rintro m rfl
  cases value with
  | natural k =>
    obtain ⟨found, count, same⟩ := Option.map_eq_some_iff.mp read
    cases same
    exact lt_of_asCount? count
  | _ => simp [asOptionalCount?, asCount?] at read

theorem exists_of_asList? {α : Type} {read : Json → Option α} {value : Json} {items : List α}
    (found : asList? read value = some items) {item : α} (member : item ∈ items) :
    ∃ part, read part = some item := by
  cases value with
  | array parts =>
    obtain ⟨part, _, same⟩ := exists_of_mapM found member
    exact ⟨part, same⟩
  | _ => cases found

end Json

open Json

theorem Path.text?_eq_some_iff {p : Path} {text : String} : p.text? = some text ↔ p = text := by
  rw [text?, Text.decode?_eq_some_iff]
  constructor
  · exact congrArg Path.mk
  · exact congrArg Path.bytes

@[simp] theorem Path.text?_ofText (text : String) : (ofText text).text? = some text := text?_eq_some_iff.mpr rfl

/-! Findings -/

/-- The position is given by counts below the limit. -/
structure Finding.Fits (f : Finding) : Prop where
  line : ∀ n ∈ f.line, n < countLimit
  column : ∀ n ∈ f.column, n < countLimit

namespace Finding

def fieldNames : List String := ["code", "rule", "file", "message", "line", "column", "severity"]

def fieldValues (f : Finding) (file : String) : List (Option Json) :=
  [some (.text f.code), some (.text f.rule), some (.text file), some (.text f.message),
    f.line.map .natural, f.column.map .natural, some (.text f.severity.word)]

theorem toJson?_eq_some_iff {f : Finding} {json : Json} :
    f.toJson? = some json ↔ ∃ file : String, f.file = file ∧ json = record (named fieldNames (f.fieldValues file)) := by
  rw [toJson?]
  simp only [Option.bind_eq_bind, Option.bind_eq_some_iff, Option.pure_def, Option.some.injEq, Path.text?_eq_some_iff]
  cases line : f.line <;> cases column : f.column <;> simp [named, fieldNames, fieldValues, line, column, eq_comm]

theorem isSome_toJson?_iff {f : Finding} : f.toJson?.isSome ↔ f.file.text?.isSome := by
  rw [toJson?]
  cases f.file.text? <;> simp

theorem plain_of_toJson? {f : Finding} {json : Json} (written : f.toJson? = some json) : Plain json := by
  obtain ⟨file, _, rfl⟩ := toJson?_eq_some_iff.mp written
  apply plain_record
  intro value member v present
  simp only [fieldValues, List.mem_cons, List.not_mem_nil, or_false] at member
  rcases member with rfl | rfl | rfl | rfl | rfl | rfl | rfl
  · cases present; exact .text _
  · cases present; exact .text _
  · cases present; exact .text _
  · cases present; exact .text _
  · obtain ⟨n, _, rfl⟩ := Option.map_eq_some_iff.mp present; exact .natural n
  · obtain ⟨n, _, rfl⟩ := Option.map_eq_some_iff.mp present; exact .natural n
  · cases present; exact .text _

theorem ofJson?_of_toJson? {f : Finding} (fits : f.Fits) {json : Json} (written : f.toJson? = some json) :
    ofJson? json = some f := by
  obtain ⟨file, spelled, rfl⟩ := toJson?_eq_some_iff.mp written
  have fields : fieldsOf? fieldNames (record (named fieldNames (f.fieldValues file))) = some (f.fieldValues file) :=
    fieldsOf?_record (by decide) rfl
  have line := asOptionalCount?_natural fits.line
  have column := asOptionalCount?_natural fits.column
  have severity : Severity.ofJson? (.text f.severity.word) = some f.severity := Severity.ofWord?_word f.severity
  rw [ofJson?, ← fieldNames, fields]
  simp [fieldValues, line, column, severity, ← spelled]

theorem fits_of_ofJson? {value : Json} {f : Finding} (read : ofJson? value = some f) :
    f.Fits ∧ f.file.text?.isSome := by
  rw [ofJson?] at read
  obtain ⟨_, _, fields⟩ := Option.bind_eq_some_iff.mp read
  split at fields
  · simp only [Option.bind_eq_bind, Option.bind_eq_some_iff, Option.pure_def, Option.some.injEq] at fields
    obtain ⟨_, _, _, _, _, _, _, _, _, _, _, _, _, _, _, _, _, line, _, column, _, _, _, _, rfl⟩ := fields
    exact ⟨⟨lt_of_asOptionalCount? line, lt_of_asOptionalCount? column⟩, by simp⟩
  · cases fields

end Finding

/-! Groups -/

/-- The paths of a group are texts. -/
structure Group.Printable (g : Group) : Prop where
  file : g.file.text?.isSome
  findings : ∀ f ∈ g.findings, f.file.text?.isSome

namespace Group

def fieldNames : List String := ["file", "findings"]

def fieldValues (file : String) (findings : List Json) : List (Option Json) :=
  [some (.text file), some (.array findings)]

theorem toJson?_eq_some_iff {g : Group} {json : Json} :
    g.toJson? = some json ↔ ∃ (file : String) (findings : List Json), g.file = file ∧
      g.findings.mapM Finding.toJson? = some findings ∧
        json = record (named fieldNames (fieldValues file findings)) := by
  rw [toJson?]
  simp only [Option.bind_eq_bind, Option.bind_eq_some_iff, Option.pure_def, Option.some.injEq, Path.text?_eq_some_iff]
  simp [named, fieldNames, fieldValues, eq_comm]

theorem isSome_toJson?_iff {g : Group} : g.toJson?.isSome ↔ g.Printable := by
  have findings : (g.findings.mapM Finding.toJson?).isSome ↔ ∀ f ∈ g.findings, f.file.text?.isSome := by
    simp only [isSome_mapM_iff, Finding.isSome_toJson?_iff]
  have both : g.toJson?.isSome ↔ g.file.text?.isSome ∧ (g.findings.mapM Finding.toJson?).isSome := by
    rw [toJson?]
    cases g.file.text? <;> cases g.findings.mapM Finding.toJson? <;> simp
  rw [both, findings]
  exact ⟨fun ⟨file, findings⟩ => ⟨file, findings⟩, fun printable => ⟨printable.file, printable.findings⟩⟩

theorem plain_of_toJson? {g : Group} {json : Json} (written : g.toJson? = some json) : Plain json := by
  obtain ⟨file, findings, _, each, rfl⟩ := toJson?_eq_some_iff.mp written
  apply plain_record
  intro value member v present
  simp only [fieldValues, List.mem_cons, List.not_mem_nil, or_false] at member
  rcases member with rfl | rfl
  · cases present; exact .text _
  · cases present
    refine .array fun item member => ?_
    obtain ⟨f, _, found⟩ := exists_of_mapM each member
    exact Finding.plain_of_toJson? found

theorem ofJson?_of_toJson? {g : Group} (fits : ∀ f ∈ g.findings, f.Fits) {json : Json}
    (written : g.toJson? = some json) : ofJson? json = some g := by
  obtain ⟨file, findings, spelled, each, rfl⟩ := toJson?_eq_some_iff.mp written
  have fields : fieldsOf? fieldNames (record (named fieldNames (fieldValues file findings))) =
      some (fieldValues file findings) := fieldsOf?_record (by decide) rfl
  have back : asList? Finding.ofJson? (.array findings) = some g.findings :=
    mapM_of_back each fun f member _ => Finding.ofJson?_of_toJson? (fits f member)
  rw [ofJson?, ← fieldNames, fields]
  simp [fieldValues, back, ← spelled]

theorem fits_of_ofJson? {value : Json} {g : Group} (read : ofJson? value = some g) :
    (∀ f ∈ g.findings, f.Fits) ∧ g.Printable := by
  rw [ofJson?] at read
  obtain ⟨_, _, fields⟩ := Option.bind_eq_some_iff.mp read
  split at fields
  · simp only [Option.bind_eq_bind, Option.bind_eq_some_iff, Option.pure_def, Option.some.injEq] at fields
    obtain ⟨_, _, _, _, _, _, listed, findings, rfl⟩ := fields
    have each : ∀ f ∈ listed, f.Fits ∧ f.file.text?.isSome := by
      intro f member
      obtain ⟨_, found⟩ := exists_of_asList? findings member
      exact Finding.fits_of_ofJson? found
    exact ⟨fun f member => (each f member).1, by simp, fun f member => (each f member).2⟩
  · cases fields

end Group

/-! Reports -/

/-- The counts and the positions of all findings are below the limit. -/
structure Report.Fits (r : Report) : Prop where
  errors : r.errorCount < countLimit
  warnings : r.warningCount < countLimit
  checked : r.filesChecked < countLimit
  findings : ∀ g ∈ r.groups, ∀ f ∈ g.findings, f.Fits

/-- All paths are texts. -/
def Report.Printable (r : Report) : Prop := ∀ g ∈ r.groups, g.Printable

namespace Report

def fieldNames : List String := ["success", "error_count", "warning_count", "files_checked", "files"]

def fieldValues (r : Report) (groups : List Json) : List (Option Json) :=
  [some (.bool r.success), some (.natural r.errorCount), some (.natural r.warningCount),
    some (.natural r.filesChecked), some (.array groups)]

theorem toJson?_eq_some_iff {r : Report} {json : Json} :
    r.toJson? = some json ↔ ∃ groups : List Json, r.groups.mapM Group.toJson? = some groups ∧
      json = Json.record (named fieldNames (r.fieldValues groups)) := by
  rw [toJson?]
  simp only [Option.bind_eq_bind, Option.bind_eq_some_iff, Option.pure_def, Option.some.injEq]
  simp [named, fieldNames, fieldValues, eq_comm]

theorem isSome_toJson?_iff {r : Report} : r.toJson?.isSome ↔ r.Printable := by
  have groups : (r.groups.mapM Group.toJson?).isSome ↔ r.Printable := by
    simp only [isSome_mapM_iff, Group.isSome_toJson?_iff]
    rfl
  rw [← groups, toJson?]
  cases r.groups.mapM Group.toJson? <;> simp

theorem plain_of_toJson? {r : Report} {json : Json} (written : r.toJson? = some json) : Plain json := by
  obtain ⟨groups, each, rfl⟩ := toJson?_eq_some_iff.mp written
  apply plain_record
  intro value member v present
  simp only [fieldValues, List.mem_cons, List.not_mem_nil, or_false] at member
  rcases member with rfl | rfl | rfl | rfl | rfl
  · cases present; exact .bool _
  · cases present; exact .natural _
  · cases present; exact .natural _
  · cases present; exact .natural _
  · cases present
    refine .array fun item member => ?_
    obtain ⟨g, _, found⟩ := exists_of_mapM each member
    exact Group.plain_of_toJson? found

theorem ofJson?_of_toJson? {r : Report} (fits : r.Fits) {json : Json} (written : r.toJson? = some json) :
    ofJson? json = some r := by
  obtain ⟨groups, each, rfl⟩ := toJson?_eq_some_iff.mp written
  have fields : fieldsOf? fieldNames (Json.record (named fieldNames (r.fieldValues groups))) =
      some (r.fieldValues groups) := fieldsOf?_record (by decide) rfl
  have errors := asCount?_natural fits.errors
  have warnings := asCount?_natural fits.warnings
  have checked := asCount?_natural fits.checked
  have back : asList? Group.ofJson? (.array groups) = some r.groups :=
    mapM_of_back each fun g member _ => Group.ofJson?_of_toJson? (fits.findings g member)
  rw [ofJson?, ← fieldNames, fields]
  simp [fieldValues, asBool?, errors, warnings, checked, back]

theorem fits_of_ofJson? {value : Json} {r : Report} (read : ofJson? value = some r) : r.Fits ∧ r.Printable := by
  rw [ofJson?] at read
  obtain ⟨_, _, fields⟩ := Option.bind_eq_some_iff.mp read
  split at fields
  · simp only [Option.bind_eq_bind, Option.bind_eq_some_iff, Option.pure_def, Option.some.injEq] at fields
    obtain ⟨_, _, _, _, _, _, _, errors, _, _, _, warnings, _, _, _, checked, _, _, listed, groups, rfl⟩ := fields
    have each : ∀ g ∈ listed, (∀ f ∈ g.findings, f.Fits) ∧ g.Printable := by
      intro g member
      obtain ⟨_, found⟩ := exists_of_asList? groups member
      exact Group.fits_of_ofJson? found
    exact ⟨⟨lt_of_asCount? errors, lt_of_asCount? warnings, lt_of_asCount? checked,
      fun g member => (each g member).1⟩, fun g member => (each g member).2⟩
  · cases fields

end Report

/-! Texts -/

theorem Finding.fits_of_parse? {text : String} {f : Finding} (read : parse? text = some f) :
    f.Fits ∧ f.file.text?.isSome := by
  obtain ⟨_, _, found⟩ := Option.bind_eq_some_iff.mp read
  exact fits_of_ofJson? found

theorem Report.fits_of_parse? {text : String} {r : Report} (read : parse? text = some r) : r.Fits ∧ r.Printable := by
  obtain ⟨_, _, found⟩ := Option.bind_eq_some_iff.mp read
  exact fits_of_ofJson? found

theorem Finding.parse?_print {f : Finding} (fits : f.Fits) (printable : f.file.text?.isSome) (layout : Layout) :
    (f.print? layout).bind parse? = some f := by
  obtain ⟨json, written⟩ := Option.isSome_iff_exists.mp (isSome_toJson?_iff.mpr printable)
  rw [print?, written, Option.map_some, Option.bind_some, parse?, (parse_print (plain_of_toJson? written) layout).1,
    Option.bind_some, ofJson?_of_toJson? fits written]

/-- The text of a report is read as what was written, alone and on a line of its own. -/
theorem Report.parse_of_print? {r : Report} {layout : Layout} {text : String} (printed : r.print? layout = some text) :
    Json.parse text = r.toJson? ∧ Json.parse (text ++ "\n") = r.toJson? := by
  obtain ⟨json, written, rfl⟩ := Option.map_eq_some_iff.mp printed
  rw [written]
  exact parse_print (plain_of_toJson? written) layout

theorem Report.parse?_of_print? {r : Report} (fits : r.Fits) {layout : Layout} {text : String}
    (printed : r.print? layout = some text) : parse? text = some r ∧ parse? (text ++ "\n") = some r := by
  obtain ⟨alone, line⟩ := parse_of_print? printed
  obtain ⟨json, written, _⟩ := Option.map_eq_some_iff.mp printed
  rw [parse?, parse?, alone, line, written, Option.bind_some, ofJson?_of_toJson? fits written]
  exact ⟨rfl, rfl⟩

theorem Report.isSome_print?_iff {r : Report} (layout : Layout) : (r.print? layout).isSome ↔ r.Printable := by
  rw [print?, Option.isSome_map, isSome_toJson?_iff]

theorem Report.parse?_print {r : Report} (fits : r.Fits) (printable : r.Printable) (layout : Layout) :
    (r.print? layout).bind parse? = some r := by
  obtain ⟨text, printed⟩ := Option.isSome_iff_exists.mp ((isSome_print?_iff layout).mpr printable)
  rw [printed, Option.bind_some, (parse?_of_print? fits printed).1]

/-- In either layout, a finding or a report is read back from its text just when its paths are texts, without which
there is no text of it, and its counts and positions are below the limit. Whatever was read from a text is so, and is
read back. -/
theorem parse?_print_iff (layout : Layout) :
    (∀ f : Finding, (f.print? layout).bind Finding.parse? = some f ↔ f.Fits ∧ f.file.text?.isSome) ∧
      (∀ r : Report, (r.print? layout).bind Report.parse? = some r ↔ r.Fits ∧ r.Printable) ∧
      (∀ (text : String) (f : Finding), Finding.parse? text = some f →
        (f.print? layout).bind Finding.parse? = some f) ∧
      ∀ (text : String) (r : Report), Report.parse? text = some r →
        (r.print? layout).bind Report.parse? = some r := by
  refine ⟨fun f => ⟨fun read => ?_, fun sound => Finding.parse?_print sound.1 sound.2 layout⟩,
    fun r => ⟨fun read => ?_, fun sound => Report.parse?_print sound.1 sound.2 layout⟩, ?_, ?_⟩
  · obtain ⟨text, _, back⟩ := Option.bind_eq_some_iff.mp read
    exact Finding.fits_of_parse? back
  · obtain ⟨text, _, back⟩ := Option.bind_eq_some_iff.mp read
    exact Report.fits_of_parse? back
  · intro text f read
    obtain ⟨fits, printable⟩ := Finding.fits_of_parse? read
    exact Finding.parse?_print fits printable layout
  · intro text r read
    obtain ⟨fits, printable⟩ := Report.fits_of_parse? read
    exact Report.parse?_print fits printable layout

/-- A finding from a text with fields in another order and one too many, and a report that holds it. -/
theorem parse?_print_iff_reordered :
    let text := "\x7b\"severity\":\"error\",\"seen\":[1.5e3],\"file\":\"a b.ts\",\"rule\":\"r\",\"line\":7," ++
      "\"code\":\"\\u0041\",\"column\":null, \"message\":\"say \\\"no\\\"\\u0001\"\x7d"
    let found : Finding := ⟨"A", "r", "a b.ts", "say \"no\"\x01", some 7, none, .error⟩
    let report : Report := ⟨false, 1, 0, 2, [⟨"a b.ts", [found]⟩]⟩
    Finding.parse? text = some found ∧ (found.print? .compact).bind Finding.parse? = some found ∧
      (report.print? .pretty).bind Report.parse? = some report := by
  intro text found report
  have read : Finding.parse? text = some found := by decide +kernel
  obtain ⟨fits, printable⟩ := Finding.fits_of_parse? read
  have reportFits : report.Fits := by
    refine ⟨by decide, by decide, by decide, ?_⟩
    intro g member f inside
    rw [List.mem_singleton.mp member] at inside
    rw [List.mem_singleton.mp inside]
    exact fits
  have reportPrintable : report.Printable := by
    intro g member
    rw [List.mem_singleton.mp member]
    refine ⟨printable, fun f inside => ?_⟩
    rw [List.mem_singleton.mp inside]
    exact printable
  exact ⟨read, (parse?_print_iff .compact).2.2.1 text found read,
    ((parse?_print_iff .pretty).2.1 report).mpr ⟨reportFits, reportPrintable⟩⟩

end HouseStyle
