import HouseStyle.Proofs.FileSets
import HouseStyle.Selection.Selector

/-! Which questions a choice among changes puts to version control, and what it makes of the answers.

Every way a choice can go is a row of a table: the questions that are put, in order, the paths that are
gone by, and the warnings. A program that cannot be started leaves no trace of the question.
-/

set_option autoImplicit false
namespace HouseStyle

/-- A computation goes on from what its first step left. -/
theorem Traced.run_bind_of {α β : Type} {first : Traced α} {next : α → Traced β}
    {calls later : List Arguments} {result : α} (ran : first.run calls = (result, later)) :
    (first >>= next).run calls = (next result).run later := by
  rw [StateT.run_bind, ran]
  rfl

namespace Git

/-! One question -/

def repositoryQuery : Arguments := ["rev-parse", "--git-dir"]

def stagedQuery : Arguments := ["diff", "--staged", "--name-only", "--relative", "--diff-filter=AM"]

def unstagedQuery : Arguments := ["diff", "--name-only", "--relative", "--diff-filter=AM"]

def comparison (base : String) : Arguments := ["diff", base, "--name-only", "--relative", "--diff-filter=AM"]

def starts (program : Program) (query : Arguments) : Bool := (program query).isOk

/-- The questions of a list that leave a trace: those that the program can be started with. -/
def traced (program : Program) (queries : List Arguments) : List Arguments := queries.filter (starts program)

theorem traced_append (program : Program) (first second : List Arguments) :
    traced program (first ++ second) = traced program first ++ traced program second :=
  List.filter_append first second

theorem traced_of_ok {program : Program} {query : Arguments} {exit : Exit} (ran : program query = .ok exit) :
    traced program [query] = [query] := by
  simp [traced, starts, ran, Except.isOk, Except.toBool]

theorem traced_of_error {program : Program} {query : Arguments} {cause : IoError}
    (failed : program query = .error cause) : traced program [query] = [] := by
  simp [traced, starts, failed, Except.isOk, Except.toBool]

/-- The names that a run prints, if it ends well. -/
def printed? (program : Program) (query : Arguments) : Option (List Path) :=
  match program query with
  | .ok exit => if exit.code = 0 then some (names (Text.decodeLossy exit.output)) else none
  | .error _ => none

/-- Why a question has no answer. -/
inductive Fails (program : Program) (query : Arguments) : GitError → Prop where
  | unstarted {cause : IoError} : program query = .error cause →
      Fails program query (.spawn (commandLine query) cause)
  | unsuccessful {exit : Exit} : program query = .ok exit → exit.code ≠ 0 →
      Fails program query
        (.failed (commandLine query) (String.ofList (Text.trim (Text.decodeLossy exit.errors).toList)))

theorem exists_fails {program : Program} {query : Arguments} (silent : printed? program query = none) :
    ∃ error, Fails program query error := by
  cases ran : program query with
  | error cause => exact ⟨_, .unstarted ran⟩
  | ok exit =>
    simp only [printed?, ran, ite_eq_right_iff, reduceCtorEq, imp_false] at silent
    exact ⟨_, .unsuccessful ran silent⟩

theorem run_of_printed {program : Program} {query : Arguments} {paths : List Path}
    (answered : printed? program query = some paths) : ∃ output, names output = paths ∧
      ∀ calls, (run program query).run calls = (.ok output, calls ++ traced program [query]) := by
  cases ran : program query with
  | error cause => simp [printed?, ran] at answered
  | ok exit =>
    simp only [printed?, ran, Option.ite_none_right_eq_some, Option.some.injEq] at answered
    refine ⟨_, answered.2, fun calls => ?_⟩
    rw [traced_of_ok ran]
    simp only [run, ran, answered.1]
    rfl

theorem run_of_fails {program : Program} {query : Arguments} {error : GitError}
    (fails : Fails program query error) (calls : List Arguments) :
    (run program query).run calls = (.error error, calls ++ traced program [query]) := by
  cases fails with
  | unstarted failed =>
    rw [traced_of_error failed, List.append_nil]
    simp only [run, failed]
    rfl
  | unsuccessful ran failed =>
    rw [traced_of_ok ran]
    simp only [run, ran, beq_iff_eq, failed, if_false]
    rfl

theorem isRepository_run (program : Program) (calls : List Arguments) :
    (isRepository program).run calls =
      ((printed? program repositoryQuery).isSome, calls ++ traced program [repositoryQuery]) := by
  cases answer : printed? program repositoryQuery with
  | some paths =>
    obtain ⟨output, _, ran⟩ := run_of_printed answer
    rw [isRepository, ← repositoryQuery, Traced.run_bind_of (ran calls)]
    rfl
  | none =>
    obtain ⟨error, fails⟩ := exists_fails answer
    rw [isRepository, ← repositoryQuery, Traced.run_bind_of (run_of_fails fails calls)]
    rfl

theorem changed_of_printed {program : Program} (arguments : Arguments) {paths : List Path}
    (answered : printed? program ("diff" :: arguments ++ nameOptions) = some paths) (calls : List Arguments) :
    (changed program arguments).run calls =
      (.ok paths, calls ++ traced program ["diff" :: arguments ++ nameOptions]) := by
  obtain ⟨output, rfl, ran⟩ := run_of_printed answered
  rw [changed, Traced.run_bind_of (ran calls)]
  rfl

theorem changed_of_fails {program : Program} (arguments : Arguments) {error : GitError}
    (fails : Fails program ("diff" :: arguments ++ nameOptions) error) (calls : List Arguments) :
    (changed program arguments).run calls =
      (.error error, calls ++ traced program ["diff" :: arguments ++ nameOptions]) := by
  rw [changed, Traced.run_bind_of (run_of_fails fails calls)]
  rfl

/-- Answered or not, a question is put once. -/
theorem changed_run (program : Program) (arguments : Arguments) (calls : List Arguments) :
    ∃ answer : Except GitError (List Path),
      (changed program arguments).run calls =
        (answer, calls ++ traced program ["diff" :: arguments ++ nameOptions]) ∧
      answer.toOption = printed? program ("diff" :: arguments ++ nameOptions) := by
  cases answer : printed? program ("diff" :: arguments ++ nameOptions) with
  | some paths => exact ⟨_, changed_of_printed arguments answer calls, rfl⟩
  | none =>
    obtain ⟨error, fails⟩ := exists_fails answer
    exact ⟨_, changed_of_fails arguments fails calls, rfl⟩

theorem staged_run (program : Program) (calls : List Arguments) : ∃ answer : Except GitError (List Path),
    (source program).staged.run calls = (answer, calls ++ traced program [stagedQuery]) ∧
      answer.toOption = printed? program stagedQuery :=
  changed_run program ["--staged"] calls

theorem unstaged_run (program : Program) (calls : List Arguments) : ∃ answer : Except GitError (List Path),
    (source program).unstaged.run calls = (answer, calls ++ traced program [unstagedQuery]) ∧
      answer.toOption = printed? program unstagedQuery :=
  changed_run program [] calls

/-! The table -/

/-- Staged and then unstaged lines; a question without an answer adds none. -/
def localLines (program : Program) : List Path :=
  (printed? program stagedQuery).getD [] ++ (printed? program unstagedQuery).getD []

def Dashed (base : String) : Prop := base.toList.head? = some '-'

instance (base : String) : Decidable (Dashed base) := inferInstanceAs (Decidable (_ = _))

def refusal (base : String) : GitError := .failed ("git diff " ++ base) "revision must not start with '-'"

theorem changedSince_of_dashed {base : String} (dashed : Dashed base) (program : Program) (calls : List Arguments) :
    ((source program).changedSince base).run calls = (.error (refusal base), calls) := by
  change (changedSince program base).run calls = _
  rw [changedSince, dashed]
  rfl

theorem changedSince_of_plain {base : String} (plain : ¬ Dashed base) (program : Program) :
    (source program).changedSince base = changed program [base] := by
  change changedSince program base = _
  rw [changedSince, if_neg (by simpa [Dashed] using plain)]

/-- The questions put for a base, the lines that are gone by, and the warnings. -/
inductive Row (program : Program) : Option String → List Arguments → List Path → List SelectionWarning → Prop where
  | noRepository {base : Option String} : printed? program repositoryQuery = none →
      Row program base [repositoryQuery] [] [.noRepository]
  | noBase : (printed? program repositoryQuery).isSome = true →
      Row program none [repositoryQuery, stagedQuery, unstagedQuery] (localLines program) []
  | compared {base : String} {lines : List Path} : (printed? program repositoryQuery).isSome = true →
      ¬ Dashed base → printed? program (comparison base) = some lines →
      Row program (some base) [repositoryQuery, comparison base] lines []
  | notCompared {base : String} {error : GitError} : (printed? program repositoryQuery).isSome = true →
      ¬ Dashed base → Fails program (comparison base) error →
      Row program (some base) [repositoryQuery, comparison base, stagedQuery, unstagedQuery] (localLines program)
        [.noComparison base error]
  | refused {base : String} : (printed? program repositoryQuery).isSome = true → Dashed base →
      Row program (some base) [repositoryQuery, stagedQuery, unstagedQuery] (localLines program)
        [.noComparison base (refusal base)]

/-- Every name that a comparison prints is a path in normal form. -/
def Tidy (program : Program) : Prop :=
  ∀ arguments paths, printed? program ("diff" :: arguments) = some paths → ∀ path ∈ paths, path.normalize = path

theorem Tidy.localLines {program : Program} (tidy : Tidy program) :
    ∀ path ∈ localLines program, path.normalize = path := by
  intro path member
  rcases List.mem_append.mp member with staged | unstaged
  · cases answer : printed? program stagedQuery with
    | none => simp [answer] at staged
    | some paths => exact tidy _ _ answer path (by simpa [answer] using staged)
  · cases answer : printed? program unstagedQuery with
    | none => simp [answer] at unstaged
    | some paths => exact tidy _ _ answer path (by simpa [answer] using unstaged)

theorem exists_row (program : Program) (base : Option String) :
    ∃ queries lines warnings, Row program base queries lines warnings := by
  cases known : printed? program repositoryQuery with
  | none => exact ⟨_, _, _, .noRepository known⟩
  | some _ =>
    have repository : (printed? program repositoryQuery).isSome = true := by rw [known]; rfl
    cases base with
    | none => exact ⟨_, _, _, .noBase repository⟩
    | some base =>
      by_cases dashed : Dashed base
      · exact ⟨_, _, _, .refused repository dashed⟩
      · cases answer : printed? program (comparison base) with
        | some lines => exact ⟨_, _, _, .compared repository dashed answer⟩
        | none =>
          obtain ⟨error, fails⟩ := exists_fails answer
          exact ⟨_, _, _, .notCompared repository dashed fails⟩

/-- The options that questions are put with, whatever the base is. -/
def ownOptions : List String := ["--git-dir", "--staged", "--name-only", "--relative", "--diff-filter=AM"]

theorem mem_ownOptions_of_dashed :
    ∀ query ∈ [repositoryQuery, stagedQuery, unstagedQuery], ∀ word ∈ query, Dashed word → word ∈ ownOptions := by
  decide

theorem Row.normal {program : Program} {base : Option String} {queries : List Arguments} {lines : List Path}
    {warnings : List SelectionWarning} (row : Row program base queries lines warnings) (tidy : Tidy program) :
    ∀ path ∈ lines, path.normalize = path := by
  cases row with
  | noRepository => simp
  | noBase => exact tidy.localLines
  | compared _ _ answer => exact tidy _ _ answer
  | notCompared => exact tidy.localLines
  | refused => exact tidy.localLines

end Git

namespace Selector

theorem firsts_concat (paths : List Path) (last : Path) :
    firsts (paths ++ [last]) =
      if (firsts paths).any (·.same last) then firsts paths else firsts paths ++ [last] := by
  simp [firsts, List.foldl_append]

/-- Among normal paths the same place is the same path. -/
theorem firsts_of_normal {paths : List Path} (normal : ∀ path ∈ paths, path.normalize = path) :
    firsts paths = paths.eraseDups := by
  induction paths using List.reverseRecOn with
  | nil => rfl
  | append_singleton paths last ih =>
    have front := ih fun path member => normal path (List.mem_append_left _ member)
    have lastNormal := normal last (by simp)
    have known : (firsts paths).any (·.same last) = paths.contains last := by
      rw [front, Bool.eq_iff_iff, List.any_eq_true, List.contains_iff_mem]
      constructor
      · rintro ⟨path, member, same⟩
        rw [List.mem_eraseDups] at member
        have pathNormal := normal path (List.mem_append_left _ member)
        rw [← pathNormal, ← lastNormal, Path.same_normalize_iff, pathNormal, lastNormal] at same
        exact same ▸ member
      · intro member
        exact ⟨last, List.mem_eraseDups.mpr member, by simp [Path.same]⟩
    rw [firsts_concat, known, front, eraseDups_concat]

theorem localChanges_run (program : Program) (calls : List Arguments) :
    (localChanges (Git.source program)).run calls =
      (firsts (Git.localLines program),
        calls ++ Git.traced program [Git.stagedQuery, Git.unstagedQuery]) := by
  obtain ⟨staged, ranStaged, stagedLines⟩ := Git.staged_run program calls
  obtain ⟨unstaged, ranUnstaged, unstagedLines⟩ := Git.unstaged_run program
    (calls ++ Git.traced program [Git.stagedQuery])
  rw [localChanges, Traced.run_bind_of ranStaged, Traced.run_bind_of ranUnstaged, stagedLines, unstagedLines,
    List.append_assoc, ← Git.traced_append]
  rfl

theorem changedFiles_none (program : Program) (calls : List Arguments) :
    (changedFiles (Git.source program) none).run calls =
      ((firsts (Git.localLines program), []),
        calls ++ Git.traced program [Git.stagedQuery, Git.unstagedQuery]) := by
  rw [changedFiles, Traced.run_bind_of (localChanges_run program calls)]
  rfl

theorem changedFiles_of_ok {source : ChangeSource} {base : String} {lines : List Path}
    {calls later : List Arguments} (compared : (source.changedSince base).run calls = (.ok lines, later)) :
    (changedFiles source (some base)).run calls = ((lines, []), later) := by
  rw [changedFiles, Traced.run_bind_of compared]
  rfl

/-- Without a comparison the local changes are asked for. -/
theorem changedFiles_of_error {program : Program} {base : String} {error : GitError} {calls later : List Arguments}
    (failed : ((Git.source program).changedSince base).run calls = (.error error, later)) :
    (changedFiles (Git.source program) (some base)).run calls =
      ((firsts (Git.localLines program), [.noComparison base error]),
        later ++ Git.traced program [Git.stagedQuery, Git.unstagedQuery]) := by
  rw [changedFiles, Traced.run_bind_of failed]
  change (localChanges (Git.source program) >>= _).run later = _
  rw [Traced.run_bind_of (localChanges_run program later)]
  rfl

section
variable {s : Selector} {lines : List Path}

theorem insertAll_of_normal (normal : ∀ path ∈ lines, path.normalize = path) :
    (FileSet.rooted s.root).insertAll (lines.filter s.policy.accepts) =
      ⟨some s.root, (lines.filter s.policy.accepts).eraseDups⟩ := by
  have same : (lines.filter s.policy.accepts).map Path.normalize = lines.filter s.policy.accepts := by
    rw [List.map_congr_left fun path member => normal path (List.mem_filter.mp member).1, List.map_id']
  refine FileSet.eq_mk (FileSet.root_insertAll _ _) ?_
  rw [FileSet.rooted, FileSet.files_insertAll, same]

theorem insertAll_firsts (normal : ∀ path ∈ lines, path.normalize = path) :
    (FileSet.rooted s.root).insertAll ((firsts lines).filter s.policy.accepts) =
      ⟨some s.root, (lines.filter s.policy.accepts).eraseDups⟩ := by
  have kept : ∀ path ∈ firsts lines, path.normalize = path := by
    rw [firsts_of_normal normal]
    exact fun path member => normal path (List.mem_eraseDups.mp member)
  rw [insertAll_of_normal kept, firsts_of_normal normal, ← eraseDups_filter,
    eraseDups_of_nodup (nodup_eraseDups _)]

end

section
variable {program : Program} {base : Option String} {queries : List Arguments} {lines : List Path}
  {warnings : List SelectionWarning}

/-- In a repository, the paths that are gone by are put in if the policy accepts them. -/
theorem changes_of_repository (s : Selector) (known : (Git.printed? program Git.repositoryQuery).isSome = true)
    {calls later : List Arguments}
    (gone : (changedFiles (Git.source program) base).run
      (calls ++ Git.traced program [Git.repositoryQuery]) = ((lines, warnings), later)) :
    (s.changes (Git.source program) base).run calls =
      (⟨(FileSet.rooted s.root).insertAll (lines.filter s.policy.accepts), warnings⟩, later) := by
  have asked := Git.isRepository_run program calls
  rw [known] at asked
  have question : (Git.source program).isRepository.run calls = _ := asked
  rw [changes, Traced.run_bind_of question]
  change (changedFiles (Git.source program) base >>= _).run _ = _
  rw [Traced.run_bind_of gone]
  rfl

/-- A choice goes as its row says. -/
theorem changes_of_row (s : Selector) (row : Git.Row program base queries lines warnings) (tidy : Git.Tidy program)
    (calls : List Arguments) :
    (s.changes (Git.source program) base).run calls =
      (⟨⟨some s.root, (lines.filter s.policy.accepts).eraseDups⟩, warnings⟩,
        calls ++ Git.traced program queries) := by
  have normal := row.normal tidy
  cases row with
  | noRepository unknown =>
    have asked := Git.isRepository_run program calls
    rw [unknown] at asked
    have question : (Git.source program).isRepository.run calls = _ := asked
    rw [changes, Traced.run_bind_of question]
    rfl
  | noBase known =>
    rw [changes_of_repository s known (changedFiles_none program _), insertAll_firsts normal,
      List.append_assoc, ← Git.traced_append]
    rfl
  | @compared base lines known plain answer =>
    have compared := Git.changed_of_printed [base] answer
      (calls ++ Git.traced program [Git.repositoryQuery])
    rw [← Git.changedSince_of_plain plain] at compared
    rw [changes_of_repository s known (changedFiles_of_ok compared), insertAll_of_normal normal,
      List.append_assoc, ← Git.traced_append]
    rfl
  | @notCompared base error known plain fails =>
    have failed := Git.changed_of_fails [base] fails
      (calls ++ Git.traced program [Git.repositoryQuery])
    rw [← Git.changedSince_of_plain plain] at failed
    rw [changes_of_repository s known (changedFiles_of_error failed), insertAll_firsts normal,
      List.append_assoc, List.append_assoc, ← Git.traced_append, ← Git.traced_append]
    rfl
  | refused known dashed =>
    have failed := Git.changedSince_of_dashed dashed program (calls ++ Git.traced program [Git.repositoryQuery])
    rw [changes_of_repository s known (changedFiles_of_error failed), insertAll_firsts normal,
      List.append_assoc, ← Git.traced_append]
    rfl

end

/-- A choice among changes is exactly that of the table: these questions in this order and no others, the
accepted ones of these lines with the first of each kept, and these warnings. A base that looks like an
option stands in no question, unless as one of the options that questions are put with anyway; and where
there is no comparison the files are those without a base. -/
theorem changes_table (s : Selector) (disk : Disk) (program : Program) (tidy : Git.Tidy program)
    (base : Option String) (calls : List Arguments) : ∃ queries lines warnings,
    Git.Row program base queries lines warnings ∧
      (s.select disk program (.changes base)).run calls =
        (⟨⟨some s.root, (lines.filter s.policy.accepts).eraseDups⟩, warnings⟩,
          calls ++ Git.traced program queries) ∧
      (∀ given ∈ base, Git.Dashed given → ∀ query ∈ queries, given ∈ query → given ∈ Git.ownOptions) ∧
      ∀ given error, .noComparison given error ∈ warnings →
        base = some given ∧
          (∃ reason, (SelectionWarning.noComparison given error).message =
            "Cannot compare against '" ++ given ++ "' (" ++ reason ++ "); using local changes instead.") ∧
          ∀ earlier, ((s.select disk program (.changes none)).run earlier).1.files =
            ⟨some s.root, (lines.filter s.policy.accepts).eraseDups⟩ := by
  obtain ⟨queries, lines, warnings, row⟩ := Git.exists_row program base
  refine ⟨queries, lines, warnings, row, changes_of_row s row tidy calls, ?_, ?_⟩
  · rintro given rfl dashed query asked member
    cases row with
    | noRepository =>
      rw [List.mem_singleton] at asked
      exact Git.mem_ownOptions_of_dashed query (by simp [asked]) given member dashed
    | compared _ plain => exact absurd dashed plain
    | notCompared _ plain => exact absurd dashed plain
    | refused => exact Git.mem_ownOptions_of_dashed query asked given member dashed
  · intro given error warned
    cases row with
    | noRepository => simp at warned
    | noBase => simp at warned
    | compared => simp at warned
    | notCompared known =>
      cases List.mem_singleton.mp warned
      refine ⟨rfl, ⟨error.message, rfl⟩, fun earlier => ?_⟩
      exact congrArg (·.1.files) (changes_of_row s (.noBase known) tidy earlier)
    | refused known =>
      cases List.mem_singleton.mp warned
      refine ⟨rfl, ⟨_, rfl⟩, fun earlier => ?_⟩
      exact congrArg (·.1.files) (changes_of_row s (.noBase known) tidy earlier)

/-- A program that knows nothing of `main` and prints one name twice. -/
def repeating : Program := fun arguments =>
  if arguments.contains "main" then .ok ⟨128, [], Text.bytes "bad revision\n"⟩
  else .ok ⟨0, Text.bytes "src/B.ts\nsrc/A.ts\n src/B.ts\n", []⟩

theorem printed?_repeating (query : Arguments) : Git.printed? repeating query =
    if query.contains "main" then none else some [Path.ofText "src/B.ts", "src/A.ts", "src/B.ts"] := by
  have read : Git.names (Text.decodeLossy (Text.bytes "src/B.ts\nsrc/A.ts\n src/B.ts\n")) =
      [Path.ofText "src/B.ts", "src/A.ts", "src/B.ts"] := by decide +kernel
  rw [Git.printed?, repeating]
  by_cases main : query.contains "main"
  · rw [if_pos main, if_pos main]
    rfl
  · rw [if_neg main, if_neg main]
    exact congrArg some read

/-- What is local counts where `main` cannot be compared with. -/
theorem changes_table_repeating :
    Git.Tidy repeating ∧
      let s : Selector := ⟨"/p", [], ⟨"ts", [], [], []⟩⟩
      ((s.select ⟨.directory [], []⟩ repeating (.changes (some "main"))).run []).1.files.files =
          [Path.ofText "src/B.ts", "src/A.ts"] ∧
        ((s.select ⟨.directory [], []⟩ repeating (.changes (some "main"))).run []).2 =
          [Git.repositoryQuery, Git.comparison "main", Git.stagedQuery, Git.unstagedQuery] := by
  have tidy : Git.Tidy repeating := by
    intro arguments paths printed path member
    rw [printed?_repeating] at printed
    split at printed
    · cases printed
    · cases printed
      simp only [List.mem_cons, List.not_mem_nil, or_false] at member
      rcases member with rfl | rfl | rfl <;> decide +kernel
  refine ⟨tidy, ?_⟩
  intro s
  obtain ⟨queries, lines, warnings, row, ran, _⟩ :=
    changes_table s ⟨.directory [], []⟩ repeating tidy (some "main") []
  rw [ran]
  cases row with
  | noRepository unknown =>
    rw [printed?_repeating] at unknown
    exact absurd unknown (by decide)
  | compared _ _ answer =>
    rw [printed?_repeating] at answer
    exact absurd answer (by simp [Git.comparison])
  | notCompared =>
    rw [Git.localLines, printed?_repeating, printed?_repeating]
    exact ⟨by dsimp only; decide +kernel, by dsimp only; decide +kernel⟩
  | refused _ dashed => exact absurd dashed (by decide)

end Selector
end HouseStyle
