import HouseStyle.Command.Run
import HouseStyle.Proofs.ChangedFiles
import HouseStyle.Proofs.Disks
import HouseStyle.Proofs.FindingPlaces
import HouseStyle.Proofs.Grouping
import HouseStyle.Proofs.ReportJson
import HouseStyle.Proofs.Validation

/-! How a check ends, and what of it is shown.

The report that a check comes to is worked out here apart from all printing. The exit code is read off it, and so is
the document that is printed; what options and terminal say about the presentation cannot reach it. There is one
exception: a path that is no text has no place in a document, and a check that would print one fails instead.
-/

set_option autoImplicit false
namespace HouseStyle

def Terminal.variables : List String :=
  ["TERM_PROGRAM", "TERM", "WT_SESSION", "TERMINAL_EMULATOR", "COLORTERM"]

namespace Command

/-! What is found -/

/-- The report that a check with a configuration comes to: none if the selection cannot be made, and the empty
one if nothing has changed. -/
def reportWith? (world : World) (options : Options) (calls : List Arguments) (config : Config) : Option Report :=
  match Selector.ofSettings world.root config.selection with
  | .error _ => none
  | .ok selector =>
    let program := Git.inDirectory world.disk world.root world.git
    let chosen := ((selector.select world.disk program options.selection).run calls).1
    if chosen.files.isEmpty && isChanges options.selection then some .empty
    else some ((Validator.ofConfig config (Rule.preset config)).validate world.disk.readText chosen.files)

def report? (world : World) (options : Options) (calls : List Arguments) : Option Report :=
  (prepare world options).toOption.bind (reportWith? world options calls)

theorem report?_cases {world : World} {options : Options} {calls : List Arguments} {report : Report}
    (found : report? world options calls = some report) :
    report = .empty ∨ ∃ config files,
      report = (Validator.ofConfig config (Rule.preset config)).validate world.disk.readText files := by
  obtain ⟨config, _, found⟩ := Option.bind_eq_some_iff.mp found
  rw [reportWith?] at found
  split at found
  · cases found
  · simp only at found
    split at found
    · cases found
      exact .inl rfl
    · cases found
      exact .inr ⟨config, _, rfl⟩

/-! What is shown -/

/-- The report is without errors, and can be printed if it is to be a document. -/
def succeeds (format : Format) (report : Report) : Bool :=
  report.success && (format == .text || (report.print? .pretty).isSome)

/-- Success is zero, and all else is one: a report that does not succeed, and a check that cannot begin. -/
def exitCode (format : Format) (found : Option Report) : Nat := if found.any (succeeds format) then 0 else 1

/-- The outcome tells what was found: its code always, its text as a document if one is asked for. -/
structure Shows (format : Format) (found : Option Report) (outcome : Outcome) : Prop where
  code : outcome.code = exitCode format found
  document : format = .json → outcome.stdout = ((found.bind (·.print? .pretty)).map (· ++ "\n")).getD ""

theorem succeeds_iff {format : Format} {report : Report} :
    succeeds format report = true ↔ report.success = true ∧ (format = .json → report.Printable) := by
  rw [succeeds, ← Report.isSome_print?_iff .pretty]
  cases format <;> simp

theorem exitCode_eq_zero_iff {format : Format} {found : Option Report} :
    exitCode format found = 0 ↔ ∃ report, found = some report ∧ succeeds format report = true := by
  cases found <;> simp [exitCode]

theorem exitCode_cases (format : Format) (found : Option Report) :
    exitCode format found = 0 ∨ exitCode format found = 1 := by
  rw [exitCode]
  split
  · exact .inl rfl
  · exact .inr rfl

/-- Where a report that is without errors can be printed, the format makes no difference. -/
theorem exitCode_congr {format other : Format} {found : Option Report}
    (same : other = format ∨ ∀ report, found = some report → report.success = true → report.Printable) :
    exitCode other found = exitCode format found := by
  rcases same with rfl | printable
  · rfl
  · cases found with
    | none => rfl
    | some report =>
      have either (format : Format) : succeeds format report = report.success := by
        rw [Bool.eq_iff_iff, succeeds_iff]
        exact and_iff_left_of_imp fun success _ => printable report rfl success
      simp only [exitCode, Option.any_some, either]

theorem printJson_shows (report : Report) : Shows .json (some report) (printJson report) := by
  rw [printJson]
  cases printed : report.print? .pretty with
  | none => exact ⟨by simp [exitCode, succeeds, printed], fun _ => by simp [printed]⟩
  | some text =>
    exact ⟨by simp [exitCode, succeeds, printed], fun _ => by simp [printed, lines, String.join]⟩

theorem conclude_shows (world : World) (options : Options) (config : Config) (files : FileSet) :
    Shows (options.format.getD .text)
      (some ((Validator.ofConfig config (Rule.preset config)).validate world.disk.readText files))
      (conclude world options config files) := by
  rw [conclude]
  cases options.format.getD .text with
  | text => exact ⟨by simp [exitCode, succeeds], fun json => nomatch json⟩
  | json => exact printJson_shows _

theorem nothingChanged_shows (format : Format) : Shows format (some .empty) (nothingChanged format) := by
  cases format with
  | text => exact ⟨rfl, fun json => nomatch json⟩
  | json => exact printJson_shows _

/-- What is printed besides, and not into a document, changes nothing. -/
theorem Shows.besides {format : Format} {found : Option Report} {outcome : Outcome}
    (shown : Shows format found outcome) {head : String} (silent : format = .json → head = "") (stderr : String) :
    Shows format found { outcome with stdout := head ++ outcome.stdout, stderr } := by
  refine ⟨shown.code, fun json => ?_⟩
  rw [silent json, String.empty_append]
  exact shown.document json

theorem checkWith_shows (world : World) (options : Options) (config : Config) (calls : List Arguments) :
    Shows (options.format.getD .text) (reportWith? world options calls config)
      ((checkWith world options config).run calls).1 := by
  unfold checkWith reportWith?
  extract_lets program format head
  -- the head is for readers of a text, and a document goes without it
  have silent : format = .json → head = "" := by
    intro json
    simp only [head, json]
  cases Selector.ofSettings world.root config.selection with
  | error error => exact ⟨rfl, silent⟩
  | ok selector =>
    simp only
    cases chose : (selector.select world.disk program options.selection).run calls with | mk chosen later =>
    rw [Traced.run_bind_of chose]
    simp only
    split
    · exact (nothingChanged_shows format).besides silent _
    · exact (conclude_shows world options config chosen.files).besides silent _

theorem check_shows (world : World) (options : Options) (calls : List Arguments) :
    Shows (options.format.getD .text) (report? world options calls) ((check world options).run calls).1 := by
  rw [check, report?]
  cases prepare world options with
  | error fatal => exact ⟨rfl, fun _ => rfl⟩
  | ok config => exact checkWith_shows world options config calls

/-- Asked for a document, a check prints one and ends as it says, or prints nothing and fails. -/
theorem Shows.of_json {found : Option Report} {outcome : Outcome} (shown : Shows .json found outcome) :
    (outcome.stdout = "" ∧ outcome.code = 1 ∧ ∀ report, found = some report → ¬report.Printable) ∨
      ∃ report text, found = some report ∧ report.print? .pretty = some text ∧ outcome.stdout = text ++ "\n" ∧
        (report.success = true ↔ outcome.code = 0) := by
  have stdout := shown.document rfl
  have code := shown.code
  cases found with
  | none => exact .inl ⟨stdout, code, fun _ none => nomatch none⟩
  | some report =>
    cases printed : report.print? .pretty with
    | none =>
      have unprintable : ¬report.Printable := by
        rw [← Report.isSome_print?_iff .pretty, printed]
        exact Bool.false_ne_true
      refine .inl ⟨?_, ?_, fun _ same => Option.some.inj same ▸ unprintable⟩
      · simpa [printed] using stdout
      · simpa [exitCode, succeeds, printed] using code
    | some text =>
      refine .inr ⟨report, text, rfl, printed, ?_, ?_⟩
      · simpa [printed] using stdout
      · simp [code, exitCode, succeeds, printed]

/-! What the report does not depend on -/

theorem ConfigSource.resolve_congr (disk : Disk) {first second : Environment} (home? : Option Path) (root : Path)
    (given? : Option Path) (agree : ∀ name ∉ Terminal.variables, first name = second name) :
    resolve disk first home? root given? = resolve disk second home? root given? := by
  have directory : userDirectory? first home? = userDirectory? second home? := by
    rw [userDirectory?, userDirectory?, agree "GUIDELINE_LINT_CONFIG_DIR" (by decide)]
  simp only [resolve, directory]

theorem report?_congr (world : World) (options : Options) (calls : List Arguments) {environment : Environment}
    (verbose : Bool) (format : Option Format)
    (agree : ∀ name ∉ Terminal.variables, environment name = world.environment name) :
    report? { world with environment } { options with verbose, format } calls = report? world options calls := by
  have prepared : prepare { world with environment } { options with verbose, format } = prepare world options := by
    simp only [prepare, ConfigSource.resolve_congr world.disk world.home world.root options.config agree]
  rw [report?, prepared]
  rfl

/-! Documents that can be read back -/

/-- What the report is made from can be counted in machine words, as all that a machine holds can: the bytes on
the disk, among which the findings lie, the findings themselves, and the files. -/
structure WithinLimits (disk : Disk) (report : Report) : Prop where
  bytes : disk.root.byteCount + 1 < Json.countLimit
  findings : report.findings.length < Json.countLimit
  checked : report.filesChecked < Json.countLimit

theorem fits_of_placed {disk : Disk} (bytes : disk.root.byteCount + 1 < Json.countLimit) {location : Path}
    {f : Finding} (placed : f.PlacedBy disk.readText location) : f.Fits := by
  rcases placed with ⟨line, column⟩ | ⟨source, read, line, column⟩
  · constructor
    · simp [line]
    · simp [column]
  · have size := Disk.length_bytes_of_readText read
    constructor
    · intro n given
      have := line n given
      omega
    · intro n given
      have := column n given
      omega

theorem mem_findings_validate {v : Validator} {read : Reader} {files : FileSet} {pool : Pool files.size}
    {f : Finding} (member : f ∈ (v.validate read files pool).findings) :
    ∃ rule ∈ v.rules, ∃ subject, f ∈ Validator.ruleFindings rule subject (rule.check read subject) := by
  rw [Validator.validate_eq_recordAll, (Report.findings_recordAll_perm _).mem_iff,
    List.flatMap_map] at member
  obtain ⟨file, _, found⟩ := List.mem_flatMap.mp member
  obtain ⟨rule, active, inside⟩ := List.mem_flatMap.mp found
  exact ⟨rule, active, _, inside⟩

theorem fits_of_report? {world : World} {options : Options} {calls : List Arguments} {report : Report}
    (found : report? world options calls = some report) (limits : WithinLimits world.disk report) :
    report.Fits := by
  rcases report?_cases found with rfl | ⟨config, files, rfl⟩
  · refine ⟨by decide, by decide, by decide, ?_⟩
    intro g member
    cases member
  · -- the counts of a validation are those of its findings
    have tallied := Report.tallied_empty.recordAll
      (files.files.map fun file => (file, (Validator.ofConfig config (Rule.preset config)).checkFile
        world.disk.readText files file))
    rw [← Validator.validate_eq_recordAll] at tallied
    refine ⟨?_, ?_, limits.checked, ?_⟩
    · rw [tallied.errors]
      exact Nat.lt_of_le_of_lt List.countP_le_length limits.findings
    · rw [tallied.warnings]
      exact Nat.lt_of_le_of_lt List.countP_le_length limits.findings
    · intro g member f inside
      obtain ⟨rule, active, subject, yielded⟩ :=
        mem_findings_validate (List.mem_flatMap.mpr ⟨g, member, inside⟩)
      have known : rule ∈ Rule.preset config := (List.mem_filter.mp active).1
      exact fits_of_placed limits.bytes (Rule.preset_placed known world.disk.readText subject f yielded)

/-! Whole runs -/

theorem run_eq_check (world : World) {words : List Text.Bytes} {options : Options}
    (asked : Request.ofWords words = .run options) (checks : options.listRules = false) :
    run world words = check world options := by
  rw [run, asked]
  simp [checks]

theorem run_shows (world : World) {words : List Text.Bytes} {options : Options} (calls : List Arguments)
    (asked : Request.ofWords words = .run options) (checks : options.listRules = false) :
    Shows (options.format.getD .text) (report? world options calls) ((run world words).run calls).1 := by
  rw [run_eq_check world asked checks]
  exact check_shows world options calls

/-- A run that checks ends with zero or one, and on whatever terminal and however much it tells, it ends the same. So it
does in either format unless it finds no error and its report cannot be printed as a document, for a path that is no
text. Asked for a document, it prints nothing and ends with one if it cannot begin or its report cannot be printed, and
else just the document of its report, which can be read back and says whether the run ended with zero. -/
theorem run_of_check (world : World) {words : List Text.Bytes} {options : Options} (calls : List Arguments)
    (asked : Request.ofWords words = .run options) (checks : options.listRules = false) :
    let found := report? world options calls
    let outcome := ((run world words).run calls).1
    (outcome.code = 0 ∨ outcome.code = 1) ∧
      (∀ (environment : Environment) (otherWords : List Text.Bytes) (verbose : Bool) (format : Option Format),
        (∀ name ∉ Terminal.variables, environment name = world.environment name) →
        Request.ofWords otherWords = .run { options with verbose, format } →
        (format.getD .text = options.format.getD .text ∨
          ∀ report, found = some report → report.success = true → report.Printable) →
        ((run { world with environment } otherWords).run calls).1.code = outcome.code) ∧
      (options.format.getD .text = .text →
        (outcome.code = 0 ↔ ∃ report, found = some report ∧ report.success = true)) ∧
      (options.format = some .json →
        (outcome.stdout = "" ∧ outcome.code = 1 ∧ ∀ report, found = some report → ¬report.Printable) ∨
        ∃ report text, found = some report ∧ report.print? .pretty = some text ∧ outcome.stdout = text ++ "\n" ∧
          Json.parse outcome.stdout = report.toJson? ∧ (report.success = true ↔ outcome.code = 0) ∧
          (WithinLimits world.disk report → Report.parse? outcome.stdout = some report)) := by
  intro found outcome
  have shown : Shows (options.format.getD .text) found outcome := run_shows world calls asked checks
  refine ⟨?_, ?_, ?_, ?_⟩
  · rw [shown.code]
    exact exitCode_cases _ found
  · intro environment otherWords verbose format agree otherAsked same
    rw [(run_shows _ calls otherAsked checks).code, report?_congr world options calls _ _ agree, shown.code]
    exact exitCode_congr same
  · intro text
    rw [shown.code, exitCode_eq_zero_iff]
    simp [succeeds_iff, text]
  · intro json
    rw [json, Option.getD_some] at shown
    refine shown.of_json.imp id fun ⟨report, text, reported, printed, stdout, code⟩ => ?_
    refine ⟨report, text, reported, printed, stdout, ?_, code, fun limits => ?_⟩
    · rw [stdout]
      exact (Report.parse_of_print? printed).2
    · rw [stdout]
      exact (Report.parse?_of_print? (fits_of_report? reported limits) printed).2

/-- A project whose only file is badly named and holds no text. -/
def unreadableProject : World where
  disk := ⟨.directory [("p", .directory
    [("package.json", .file []), ("src", .directory [("users.ts", .file [0xFF])])])], ["p"]⟩
  environment := fun _ => none
  home := some "/home"
  root := "/p"
  git := none

/-- The rule on interfaces cannot be applied, and the document says so; another way to show the results, on
another terminal, ends the same. -/
theorem run_of_check_unreadable :
    let plain := ((run unreadableProject ["src/users.ts", "--format", "json"]).run []).1
    let linking : Environment := fun name =>
      if name = "TERM" then some "xterm" else unreadableProject.environment name
    let shown := ((run { unreadableProject with environment := linking } ["-v", "src/users.ts"]).run []).1
    ∃ report : Report, report.success = false ∧ report.findings.length = 2 ∧ report.Printable ∧
      WithinLimits unreadableProject.disk report ∧ plain.code = 1 ∧
      Report.parse? plain.stdout = some report ∧ shown.code = plain.code := by
  intro plain linking shown
  have asked : Request.ofWords ["src/users.ts", "--format", "json"] =
      .run { files := ["src/users.ts"], format := some .json } := by decide +kernel
  have otherAsked : Request.ofWords ["-v", "src/users.ts"] =
      .run { files := ["src/users.ts"], verbose := true } := by decide +kernel
  have agree : ∀ name ∉ Terminal.variables, linking name = unreadableProject.environment name := by
    intro name other
    exact if_neg fun same => other (by rw [same]; decide)
  have counts : (report? unreadableProject { files := ["src/users.ts"], format := some .json } []).map
      (fun r => (r.success, r.findings.length, r.filesChecked, (r.print? .pretty).isSome)) =
        some (false, 2, 1, true) := by decide +kernel
  obtain ⟨report, found, counts⟩ := Option.map_eq_some_iff.mp counts
  simp only [Prod.mk.injEq] at counts
  obtain ⟨failed, two, one, printable⟩ := counts
  have printable := (Report.isSome_print?_iff .pretty).mp printable
  have limits : WithinLimits unreadableProject.disk report :=
    ⟨by decide +kernel, by rw [two]; decide, by rw [one]; decide⟩
  obtain ⟨codes, same, _, document⟩ := run_of_check unreadableProject [] asked rfl
  rcases document rfl with ⟨_, _, nothing⟩ | ⟨again, _, foundAgain, _, _, _, verdict, readBack⟩
  · exact absurd printable (nothing report found)
  · obtain rfl : report = again := Option.some.inj (found.symm.trans foundAgain)
    refine ⟨report, failed, two, printable, limits, ?_, readBack limits,
      same linking _ true none agree otherAsked (.inr fun other found' _ => ?_)⟩
    · rcases codes with zero | one
      · rw [verdict.mpr zero] at failed
        cases failed
      · exact one
    · rwa [Option.some.inj (found'.symm.trans found)]

/-- A project with a directory whose name is no text. -/
def unspelledProject : World where
  disk := ⟨.directory [("p", .directory
    [("package.json", .file []), ("src", .directory [([0xFF], .directory [("A-b.ts", .file "(")])])])], ["p"]⟩
  environment := fun _ => none
  home := none
  root := "/p"
  git := none

/-- Of the file in that directory there is a warning and no error. Its path has no place in a document: shown as a text
the check ends with zero, and asked for a document it fails. And an empty word names no file. -/
theorem run_by_format_unspelled :
    ((run unspelledProject ["--all"]).run []).1.code = 0 ∧
      ((run unspelledProject ["--all", "--format", "json"]).run []).1 =
        { stderr := "Error: path contains invalid UTF-8 characters\n", code := 1 } ∧
      ((run unspelledProject [""]).run []).1.code = 2 := by
  decide +kernel

end Command
end HouseStyle
