import HouseStyle.Command.ConfigSource
import HouseStyle.Command.Request
import HouseStyle.Report.Json
import HouseStyle.Report.Text
import HouseStyle.Rule.Preset
import HouseStyle.Validator

/-! A whole run of the program: what it prints, and how it ends. -/

set_option autoImplicit false
namespace HouseStyle.Command

structure Outcome where
  stdout : String := ""
  stderr : String := ""
  code : Nat := 0
  deriving DecidableEq, Repr

structure World where
  disk : Disk
  environment : Environment
  /-- Where the user is at home, as far as the system knows. -/
  home : Option Path
  /-- The directory that is checked, which is the one the program runs in. -/
  root : Path
  git : Option Program

/-! Fatal errors -/

inductive Fatal where
  | config (path : Path) (error : ConfigError)
  | noProject (marker root : Path)
  | policy (error : PolicyError)
  | unprintable
  deriving DecidableEq, Repr

def Fatal.headline : Fatal → String
  | .config path _ => "Failed to load config: " ++ path.display
  | .noProject marker root =>
    marker.display ++ " not found in " ++ root.display ++
      ". Run guideline-lint from the root of your NestJS project."
  | .policy _ => "Invalid selector configuration"
  | .unprintable => "path contains invalid UTF-8 characters"

/-- What lies behind it, the nearest cause first. -/
def Fatal.causes : Fatal → List String
  | .config _ (.unreadable path cause) => [(ConfigError.unreadable path cause).message, cause.message]
  | .config _ .malformed => [ConfigError.malformed.message]
  | .noProject _ _ => []
  | .policy error => [error.message, error.cause.message]
  | .unprintable => []

def indented (width : Nat) (text : String) : String :=
  String.ofList (text.toList.flatMap fun c =>
    if c == '\n' then '\n' :: List.replicate width ' ' else [c])

def causeLines : List String → List String
  | [] => []
  | [cause] => ["", "Caused by:", "    " ++ indented 4 cause]
  | causes => ["", "Caused by:"] ++ causes.zipIdx.map fun (cause, n) =>
      "    " ++ toString n ++ ": " ++ indented 7 cause

def lines (texts : List String) : String := String.join (texts.map (· ++ "\n"))

def Fatal.text (fatal : Fatal) : String :=
  lines (("Error: " ++ fatal.headline) :: causeLines fatal.causes)

/-! Parts of the output -/

def repeated (c : Char) (count : Nat) : String := String.ofList (List.replicate count c)

def banner (verbose : Bool) (environment : Environment) : String :=
  lines (["🚀 NestJS Coding Guidelines Validator", repeated '=' 37] ++
    if verbose then
      ["🔗 Hyperlink support: " ++ (if Terminal.hasLinks environment then "yes" else "no") ++ " (" ++
        Terminal.name environment ++ ")"]
    else [])

def warnings (found : List SelectionWarning) : String :=
  lines (found.map fun warning => "⚠️  " ++ warning.message)

def chosenLine (files : FileSet) : String :=
  lines ["🔍 Checking " ++ toString files.size ++ " file(s): " ++
    ", ".intercalate (files.files.map Path.display)]

/-- The report as a document, and the exit code; a path that is no text keeps it from being printed. -/
def printJson (report : Report) : Outcome :=
  match report.print? .pretty with
  | some text => { stdout := lines [text], code := if report.success then 0 else 1 }
  | none => { stderr := Fatal.unprintable.text, code := 1 }

def column (width : Nat) (word : String) : String :=
  word ++ repeated ' ' (width - word.length)

def ruleRow (code name description : String) : String :=
  column 8 code ++ " " ++ column 25 name ++ " " ++ description

def ruleList (rules : List Rule) : String :=
  lines (["Available rules:", "", ruleRow "Code" "Name" "Description", repeated '-' 80] ++
    rules.map (fun rule => ruleRow rule.code rule.name rule.description) ++
    ["", "Rules run in the order listed. Disable one in guidelines.toml:", "  [rules.interface-naming]",
      "  enabled = false"])

/-! Checking -/

def prepare (world : World) (options : Options) : Except Fatal Config := do
  let source := ConfigSource.resolve world.disk world.environment world.home world.root options.config
  let config ← (match source.load world.disk with
    | .ok config => .ok config
    | .error error => .error (.config (source.path?.getD ⟨[]⟩) error))
  let marker := config.selection.projectMarker
  if world.disk.isFile (world.root.join marker) then return config else throw (.noProject marker world.root)

def conclude (world : World) (options : Options) (config : Config) (files : FileSet) : Outcome :=
  let report := (Validator.ofConfig config (Rule.preset config)).validate world.disk.readText files
  match options.format.getD .text with
  | .text =>
    let chosen := if options.verbose then chosenLine files else ""
    let locator := Terminal.locator world.environment world.root
    { stdout := chosen ++ report.render options.verbose locator, code := if report.success then 0 else 1 }
  | .json => printJson report

def nothingChanged : Format → Outcome
  | .text => { stdout := lines ["✅ No changed TypeScript files to check."] }
  | .json => printJson .empty

def isChanges : Selection → Bool
  | .changes _ => true
  | _ => false

def checkWith (world : World) (options : Options) (config : Config) : Traced Outcome := do
  let format := options.format.getD .text
  let head := match format with
    | .text => banner options.verbose world.environment
    | .json => ""
  match Selector.ofSettings world.root config.selection with
  | .error error => return { stdout := head, stderr := (Fatal.policy error).text, code := 1 }
  | .ok selector =>
    let program := Git.inDirectory world.disk world.root world.git
    let chosen ← selector.select world.disk program options.selection
    let rest :=
      if chosen.files.isEmpty && isChanges options.selection then nothingChanged format
      else conclude world options config chosen.files
    return { rest with
      stdout := head ++ rest.stdout
      stderr := warnings chosen.warnings ++ rest.stderr }

def check (world : World) (options : Options) : Traced Outcome :=
  match prepare world options with
  | .error fatal => return { stderr := fatal.text, code := 1 }
  | .ok config => checkWith world options config

/-! Everything -/

def versionText : String := lines ["guideline-lint 0.1.0"]

def usageText : String := lines [
  "Usage: guideline-lint [OPTIONS] [FILES]...",
  "",
  "Options:",
  "  -a, --all              Check every TypeScript file in the project",
  "  -v, --verbose          Show every finding with its message",
  "  -b, --branch <NAME>    Check files changed against this branch or commit",
  "  -c, --config <CONFIG>  Path to configuration file",
  "      --format <FORMAT>  Output format [default: text] [possible values: text, json]",
  "      --list-rules       List available rules and exit",
  "  -h, --help             Print help",
  "  -V, --version          Print version"]

def run (world : World) (words : List Text.Bytes) : Traced Outcome :=
  match Request.ofWords words with
  | .usageError => return { stderr := usageText, code := 2 }
  | .help => return { stdout := usageText }
  | .version => return { stdout := versionText }
  | .run options =>
    if options.listRules then return { stdout := ruleList (Rule.preset {}) } else check world options

end HouseStyle.Command
