import HouseStyle.Command.Run

/-!
The program on a real machine: it takes a picture of the files it may need, runs on that, and prints. Names and
words come from the system as texts. No other program is started, so that there is no version control to ask.
-/

set_option autoImplicit false
namespace HouseStyle.Main

/-- No path can be longer, so that nothing that lies deeper can be reached. -/
def pathLimit : Nat := 4096

/-- A picture of what an absolute path leads to; the targets of the links in it are noted. -/
def picture : Nat → String → StateT (List String) IO Entry
  | 0, path => throw (.userError path)
  | depth + 1, path => do
    let place := (← IO.currentDir) / path
    match (← place.symlinkMetadata).type with
    | .dir =>
      let mut entries := #[]
      for found in ← place.readDir do
        let name := found.fileName
        try
          entries := entries.push (Text.bytes name, ← picture depth (path ++ "/" ++ name))
        catch _ => pure ()
      return .directory entries.toList
    | .symlink =>
      let target := toString (← IO.FS.realPath place)
      modify (target :: ·)
      return .link target
    | .file => return .file (← IO.FS.readBinFile place).toList
    -- neither a file nor a directory: nothing looks at it
    | .other => throw (.userError path)

def place (new : Entry) : Location → Entry → Entry
  | [], _ => new
  | name :: rest, old =>
    let inner := (old.get? name).getD (.directory [])
    .directory ((name, place new rest inner) :: old.entries.filter (·.1 != name))

def locationOf (path : Path) : Location :=
  path.components.foldl (fun names c =>
    match c with
    | .up => names.dropLast
    | .name name => names ++ [name]
    | _ => names) []

/-- What is known of the files: a tree, and the paths below which it is complete. -/
structure Album where
  root : Entry := .directory []
  seen : List Path := []

/-- The album with pictures of some absolute paths, and in further rounds of what the links in them lead to. A path
that leads nowhere adds nothing. -/
def Album.extend : Nat → List Path → Album → IO Album
  | 0, _, album => return album
  | rounds + 1, paths, album => do
    let mut album := album
    let mut targets := []
    for path in paths do
      if !album.seen.any fun old => (Path.below? old path).isSome then
        try
          let (entry, found) ← (picture pathLimit path.display).run []
          album := ⟨place entry (locationOf path) album.root, path :: album.seen⟩
          targets := targets ++ found.map Path.ofText
        catch _ => pure ()
    if targets.isEmpty then return album else extend rounds targets album

def Album.including (album : Album) (paths : List Path) : IO Album := album.extend Disk.linkLimit paths

def listedHome? : IO (Option String) := do
  let status := (← IO.FS.readFile "/proc/self/status").splitOn "\n"
  let users := ((← IO.FS.readFile "/etc/passwd").splitOn "\n").map (·.splitOn ":")
  return (status.find? (·.startsWith "Uid:")).bind fun line => do
    let user ← (line.splitOn "\t")[1]?
    let fields ← users.find? (·[2]? == some user)
    fields[5]?

def home? : IO (Option Path) := do
  match ← IO.getEnv "HOME" with
  | some home => return some home
  | none =>
    try
      return (← listedHome?).map .ofText
    catch _ => return none

def variableNames : List String :=
  ["GUIDELINE_LINT_CONFIG_DIR", "TERM", "TERM_PROGRAM", "WT_SESSION", "TERMINAL_EMULATOR", "COLORTERM"]

def environment : IO Environment := do
  let found ← variableNames.filterMapM fun name => do
    return (← IO.getEnv name).map fun value => (name, value)
  return fun name => (found.find? (·.1 == name)).map (·.2)

def namedPaths (words : List Text.Bytes) : List Path :=
  match Command.Request.ofWords words with
  | .run options => options.config.toList ++ options.files
  | _ => []

def configuredPaths (world : Command.World) (words : List Text.Bytes) : List Path :=
  match Command.Request.ofWords words with
  | .run options =>
    let source := Command.ConfigSource.resolve world.disk world.environment world.home world.root options.config
    match source.load world.disk with
    | .ok config => config.selection.projectMarker :: config.selection.scanRoots
    | .error _ => []
  | _ => []

def run (words : List Text.Bytes) : IO UInt32 := do
  let here : Path := toString (← IO.currentDir)
  let environment ← environment
  let home ← home?
  let world (album : Album) : Command.World := ⟨⟨album.root, locationOf here⟩, environment, home, here, none⟩
  let settings := (Command.ConfigSource.userDirectory? environment home).toList
  let album ← Album.including {} (here :: (settings ++ namedPaths words).map here.join)
  let album ← album.including ((configuredPaths (world album) words).map here.join)
  let (outcome, _) := (Command.run (world album) words).run []
  IO.print outcome.stdout
  IO.eprint outcome.stderr
  return UInt32.ofNat outcome.code

end HouseStyle.Main

def main (words : List String) : IO UInt32 := HouseStyle.Main.run (words.map HouseStyle.Text.bytes)
