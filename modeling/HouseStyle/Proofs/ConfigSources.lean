import HouseStyle.Proofs.Outcomes
import HouseStyle.Proofs.Policies

/-! Where the configuration of a run comes from, and what ends a run before it has looked at any file.

The places for a configuration stand in a fixed order, and the first that applies decides alone: it is loaded or
the run ends, and no later place is looked at. A run that ends for want of a configuration or of the project's
marker has printed nothing; one with a pattern that cannot be read has printed its heading at most. None of
them has put a question to version control.
-/

set_option autoImplicit false
namespace HouseStyle

/-! What a place holds -/

/-- The configuration at a path is not to be had: its text cannot be read, or is no configuration. -/
def Config.Spoilt (disk : Disk) (path : Path) : Prop :=
  ∀ text, disk.readText path = .ok text → Config.parse? text = none

theorem Config.load_of_spoilt {disk : Disk} {path : Path} (spoilt : Spoilt disk path) :
    ∃ error, load disk path = .error error := by
  unfold load
  cases read : disk.readText path with
  | error cause => exact ⟨_, rfl⟩
  | ok text =>
    simp only [spoilt text read]
    exact ⟨_, rfl⟩

/-! Patterns -/

def Glob.Malformed (pattern : String) : Prop := ∃ cause, parse pattern = .error cause

theorem Policy.mapM_pattern_of_malformed {texts : List String} {text : String} (member : text ∈ texts)
    (malformed : Glob.Malformed text) : ∃ error, texts.mapM pattern = .error error := by
  cases read : texts.mapM pattern with
  | error error => exact ⟨error, rfl⟩
  | ok patterns =>
    have readable := (Glob.exists_reads_iff texts).mp ⟨patterns, mapM_pattern_eq_ok_iff.mp read⟩
    obtain ⟨found, parsed⟩ := readable text member
    obtain ⟨cause, refused⟩ := malformed
    rw [refused] at parsed
    cases parsed

theorem Selector.ofSettings_of_malformed (root : Path) {settings : SelectionSettings} {pattern : String}
    (member : pattern ∈ settings.excluded) (malformed : Glob.Malformed pattern) :
    ∃ error, ofSettings root settings = .error error := by
  obtain ⟨error, failed⟩ := Policy.mapM_pattern_of_malformed member malformed
  refine ⟨error, ?_⟩
  rw [ofSettings, Policy.ofSettings, failed]
  rfl

namespace Command

namespace ConfigSource

/-- What a source that is not spoilt gives: the configuration that its text is, or the defaults. -/
inductive Loads (disk : Disk) : ConfigSource → Config → Prop where
  | text {source : ConfigSource} {path : Path} {text : String} {config : Config} : source.path? = some path →
      disk.readText path = .ok text → Config.parse? text = some config → Loads disk source config
  | defaults : Loads disk .default {}

theorem Loads.load_eq {disk : Disk} {source : ConfigSource} {config : Config} (loads : Loads disk source config) :
    source.load disk = .ok config := by
  cases loads with
  | text place read parsed => simp only [load, place, Config.load, read, parsed]
  | defaults => rfl

theorem load_of_spoilt {disk : Disk} {source : ConfigSource} {path : Path} (place : source.path? = some path)
    (spoilt : Config.Spoilt disk path) : ∃ error, source.load disk = .error error := by
  simp only [load, place]
  exact Config.load_of_spoilt spoilt

theorem spoilt_or_loads (disk : Disk) (source : ConfigSource) :
    (∃ path ∈ source.path?, Config.Spoilt disk path) ∨ ∃ config, Loads disk source config := by
  cases place : source.path? with
  | none =>
    -- only the defaults stand nowhere
    cases source with
    | default => exact .inr ⟨{}, .defaults⟩
    | given | project | home => cases place
  | some path =>
    by_cases spoilt : Config.Spoilt disk path
    · exact .inl ⟨path, rfl, spoilt⟩
    · simp only [Config.Spoilt, not_forall] at spoilt
      obtain ⟨text, read, parsed⟩ := spoilt
      obtain ⟨config, parsed⟩ := Option.ne_none_iff_exists'.mp parsed
      exact .inr ⟨config, .text place read parsed⟩

theorem load_congr {disk other : Disk} {source : ConfigSource}
    (same : ∀ path ∈ source.path?, other.readText path = disk.readText path) :
    source.load other = source.load disk := by
  unfold load
  cases place : source.path? with
  | none => rfl
  | some path => simp only [Config.load, same path place]

/-! The order of places -/

/-- All places for a configuration: the one that is given, two in the project, one in a directory that the
environment names or else in the home directory, and the defaults. -/
def places (environment : Environment) (home? : Option Path) (root : Path) (given? : Option Path) :
    List ConfigSource :=
  let directory? := ((environment "GUIDELINE_LINT_CONFIG_DIR").map Path.ofText).or
    (home?.map (·.join ".guideline-lint"))
  (given?.map given).toList ++
    [project (root.join "guidelines.toml"), project (root.join ".guidelines.toml")] ++
    (directory?.map fun directory => home (directory.join "config.toml")).toList ++ [default]

/-- A place that is given applies whether or not there is anything, and the defaults always do; the others need
a file. -/
def applies (disk : Disk) : ConfigSource → Bool
  | given _ => true
  | project path => disk.isFile path
  | home path => disk.isFile path
  | default => true

theorem userDirectory?_eq (environment : Environment) (home? : Option Path) :
    userDirectory? environment home? = ((environment "GUIDELINE_LINT_CONFIG_DIR").map Path.ofText).or
      (home?.map (·.join ".guideline-lint")) := by
  unfold userDirectory?
  cases environment "GUIDELINE_LINT_CONFIG_DIR" <;> rfl

theorem find?_places (disk : Disk) (environment : Environment) (home? : Option Path) (root : Path)
    (given? : Option Path) :
    (places environment home? root given?).find? (applies disk) =
      some (resolve disk environment home? root given?) := by
  cases given? with
  | some path => rfl
  | none =>
    simp only [places, resolve, ← userDirectory?_eq, projectNames, List.map_cons, List.map_nil]
    -- place by place: it is a file, and decides, or the next one is asked for
    by_cases plain : disk.isFile (root.join "guidelines.toml")
    · simp [applies, plain]
    · by_cases dotted : disk.isFile (root.join ".guidelines.toml")
      · simp [applies, plain, dotted]
      · cases userDirectory? environment home? with
        | none => simp [applies, plain, dotted]
        | some directory =>
          by_cases there : disk.isFile (directory.join "config.toml")
          · simp [applies, plain, dotted, there, Option.filter]
          · simp [applies, plain, dotted, there, Option.filter]

/-- What stands after the first place that applies makes no difference. -/
theorem resolve_of_agree {disk other : Disk} {environment : Environment} {home? : Option Path} {root : Path}
    {given? : Option Path} {source : ConfigSource} {before after : List ConfigSource}
    (split : places environment home? root given? = before ++ source :: after)
    (passed : ∀ place ∈ before, applies disk place = false) (chosen : applies disk source = true)
    (agree : ∀ place ∈ before ++ [source], applies other place = applies disk place) :
    resolve other environment home? root given? = source := by
  have found := find?_places other environment home? root given?
  have first : (places environment home? root given?).find? (applies other) = some source := by
    refine List.find?_eq_some_iff_append.mpr ⟨?_, before, after, split, fun place member => ?_⟩
    · rw [agree source (by simp), chosen]
    · rw [agree place (by simp [member]), passed place member]
      rfl
  exact Option.some.inj (found.symm.trans first)

end ConfigSource

/-! Runs that end early -/

/-- What a run prints before it looks for files: a banner for people, nothing into a document. -/
def heading (environment : Environment) (options : Options) : String :=
  match options.format.getD .text with
  | .text => banner options.verbose environment
  | .json => ""

/-- The run has failed with nothing printed but this, and with no further question to version control. -/
structure EndsEarly (calls : List Arguments) (printed : String) (result : Outcome × List Arguments) : Prop where
  code : result.1.code = 1
  stdout : result.1.stdout = printed
  calls : result.2 = calls

section
variable (world : World) {options : Options}

theorem prepare_of_load_error {error : ConfigError}
    (failed : (ConfigSource.resolve world.disk world.environment world.home world.root options.config).load world.disk =
      .error error) : ∃ fatal, prepare world options = .error fatal := by
  simp only [prepare, failed]
  exact ⟨_, rfl⟩

theorem prepare_of_load {config : Config}
    (loaded : (ConfigSource.resolve world.disk world.environment world.home world.root options.config).load world.disk =
      .ok config) :
    prepare world options = if world.disk.isFile (world.root.join config.selection.projectMarker) then .ok config
      else .error (.noProject config.selection.projectMarker world.root) := by
  simp only [prepare, loaded]
  rfl

end

theorem check_of_fatal {world : World} {options : Options} {fatal : Fatal}
    (failed : prepare world options = .error fatal) (calls : List Arguments) :
    EndsEarly calls "" ((check world options).run calls) := by
  unfold check
  rw [failed]
  exact ⟨rfl, rfl, rfl⟩

theorem checkWith_of_malformed (world : World) (options : Options) {config : Config} {pattern : String}
    (member : pattern ∈ config.selection.excluded) (malformed : Glob.Malformed pattern) (calls : List Arguments) :
    EndsEarly calls (heading world.environment options) ((checkWith world options config).run calls) := by
  obtain ⟨error, refused⟩ := Selector.ofSettings_of_malformed world.root member malformed
  unfold checkWith
  rw [refused]
  exact ⟨rfl, rfl, rfl⟩

/-- The configuration of a run comes from the first place that applies, and from no other: what later places
hold, and all that is not the text of the chosen one, makes no difference. If that text is spoilt, or if the
project has no marker, the run fails with nothing printed; if a pattern cannot be read, with no more than a
heading; in each case without a question to version control, whatever that would answer. Else the run goes on
with that configuration. -/
theorem run_of_sources (world : World) {words : List Text.Bytes} {options : Options} (calls : List Arguments)
    (asked : Request.ofWords words = .run options) (checks : options.listRules = false) :
    let source := ConfigSource.resolve world.disk world.environment world.home world.root options.config
    let ran := fun git => (run { world with git } words).run calls
    (∃ before after,
      ConfigSource.places world.environment world.home world.root options.config = before ++ source :: after ∧
      (∀ place ∈ before, ConfigSource.applies world.disk place = false) ∧
      ConfigSource.applies world.disk source = true ∧
      ∀ other : Disk,
        (∀ place ∈ before ++ [source],
          ConfigSource.applies other place = ConfigSource.applies world.disk place) →
        (∀ path ∈ source.path?, other.readText path = world.disk.readText path) →
        ConfigSource.resolve other world.environment world.home world.root options.config = source ∧
          source.load other = source.load world.disk) ∧
    ((∃ path ∈ source.path?, Config.Spoilt world.disk path) ∨
      ∃ config, ConfigSource.Loads world.disk source config) ∧
    (∀ path ∈ source.path?, Config.Spoilt world.disk path → ∀ git, EndsEarly calls "" (ran git)) ∧
    ∀ config, ConfigSource.Loads world.disk source config →
      let marked := world.disk.isFile (world.root.join config.selection.projectMarker)
      (marked = false → ∀ git, EndsEarly calls "" (ran git)) ∧
      (∀ pattern ∈ config.selection.excluded, Glob.Malformed pattern → ∀ git,
        EndsEarly calls (if marked then heading world.environment options else "") (ran git)) ∧
      (marked = true → run world words = checkWith world options config) := by
  intro source ran
  have ran_eq (git : Option Program) : ran git = (check { world with git } options).run calls := by
    simp only [ran, run_eq_check _ asked checks]
  refine ⟨?_, source.spoilt_or_loads world.disk, ?_, ?_⟩
  · obtain ⟨chosen, before, after, split, passed⟩ := List.find?_eq_some_iff_append.mp
      (ConfigSource.find?_places world.disk world.environment world.home world.root options.config)
    have passed : ∀ place ∈ before, ConfigSource.applies world.disk place = false := by simpa using passed
    refine ⟨before, after, split, passed, chosen, fun other agree same => ⟨?_, ConfigSource.load_congr same⟩⟩
    exact ConfigSource.resolve_of_agree split passed chosen agree
  · intro path place spoilt git
    obtain ⟨error, failed⟩ := ConfigSource.load_of_spoilt place spoilt
    obtain ⟨fatal, stopped⟩ := prepare_of_load_error { world with git } failed
    rw [ran_eq]
    exact check_of_fatal stopped calls
  · intro config loads marked
    have prepared (git : Option Program) := prepare_of_load { world with git } loads.load_eq
    -- the marker is looked for before any pattern is read
    cases there : marked with
    | false =>
      have stops (git : Option Program) : EndsEarly calls "" (ran git) := by
        rw [ran_eq]
        exact check_of_fatal ((prepared git).trans (if_neg (by simpa [marked] using there))) calls
      exact ⟨fun _ => stops, fun _ _ _ => stops, fun other => absurd other Bool.false_ne_true⟩
    | true =>
      have goesOn (git : Option Program) :
          check { world with git } options = checkWith { world with git } options config := by
        rw [check, (prepared git).trans (if_pos there)]
      refine ⟨fun other => absurd other.symm Bool.false_ne_true, fun pattern member malformed git => ?_, fun _ => ?_⟩
      · rw [ran_eq, goesOn]
        exact checkWith_of_malformed { world with git } options member malformed calls
      · rw [run_eq_check world asked checks]
        exact goesOn world.git

/-- A project with a configuration that breaks off, another one beside it, one more with a pattern that cannot
be read, and a directory in the place of its marker. -/
def brokenProject : World where
  disk := ⟨.directory [("p", .directory
    [("package.json", .directory []), ("guidelines.toml", .file (Text.bytes "[")), (".guidelines.toml", .file []),
      ("glob.toml", .file (Text.bytes "selector = [[], \"\", [], [], [\"a**\"], \"glob.toml\"]"))])], ["p"]⟩
  environment := fun _ => none
  home := none
  root := "/p"
  git := some fun _ => .ok ⟨0, [], []⟩

/-- The second configuration does not stand in for the first, a directory is no marker, and of the run with the
bad pattern there is nothing but the banner. -/
theorem run_of_sources_broken :
    EndsEarly [] "" ((run brokenProject []).run []) ∧
      EndsEarly [] "" ((run brokenProject ["-c", ".guidelines.toml", "-a"]).run []) ∧
      EndsEarly [] (banner false brokenProject.environment) ((run brokenProject ["-c", "glob.toml"]).run []) := by
  refine ⟨?_, ?_, ?_⟩
  · have asked : Request.ofWords [] = .run {} := rfl
    have source : ConfigSource.resolve brokenProject.disk brokenProject.environment none brokenProject.root none =
        .project "/p/guidelines.toml" := by decide +kernel
    have spoilt : Config.Spoilt brokenProject.disk "/p/guidelines.toml" := by
      have read : brokenProject.disk.readText "/p/guidelines.toml" = .ok "[" := by decide +kernel
      intro text same
      cases read.symm.trans same
      decide +kernel
    obtain ⟨_, _, stops, _⟩ := run_of_sources brokenProject [] asked rfl
    exact stops _ (congrArg ConfigSource.path? source) spoilt brokenProject.git
  · have asked : Request.ofWords ["-c", ".guidelines.toml", "-a"] =
        .run { config := some ".guidelines.toml", all := true } := by decide +kernel
    have read : brokenProject.disk.readText ".guidelines.toml" = .ok "" := by decide +kernel
    have marker : (Config.parse? "").map (·.selection.projectMarker) = some "package.json" := by decide +kernel
    obtain ⟨config, parsed, marker⟩ := Option.map_eq_some_iff.mp marker
    obtain ⟨_, _, _, loaded⟩ := run_of_sources brokenProject [] asked rfl
    refine (loaded config (.text rfl read parsed)).1 ?_ brokenProject.git
    rw [marker]
    decide +kernel
  · have asked : Request.ofWords ["-c", "glob.toml"] = .run { config := some "glob.toml" } := by decide +kernel
    let text := "selector = [[], \"\", [], [], [\"a**\"], \"glob.toml\"]"
    have read : brokenProject.disk.readText "glob.toml" = .ok text := by decide +kernel
    have settings : (Config.parse? text).map (·.selection) =
        some ⟨[], "", [], [], ["a**"], "glob.toml"⟩ := by decide +kernel
    obtain ⟨config, parsed, settings⟩ := Option.map_eq_some_iff.mp settings
    have malformed : Glob.Malformed "a**" := ⟨⟨0, .recursiveWildcards⟩, by decide +kernel⟩
    obtain ⟨_, _, _, loaded⟩ := run_of_sources brokenProject [] asked rfl
    have ends := (loaded config (.text rfl read parsed)).2.1 "a**" (by simp [settings]) malformed
      brokenProject.git
    rwa [settings, if_pos (by decide +kernel)] at ends

end Command
end HouseStyle
