import HouseStyle.Selection.Selector

/-!
What the words of a command line ask for. They need not be texts. They are read from left to right; the first
that is wrong, or that asks for help or the version, decides.
-/

set_option autoImplicit false
namespace HouseStyle.Command

inductive Format where
  | text
  | json
  deriving DecidableEq, Repr

structure Options where
  files : List Path := []
  all : Bool := false
  verbose : Bool := false
  branch : Option String := none
  config : Option Path := none
  format : Option Format := none
  listRules : Bool := false
  deriving DecidableEq, Repr

inductive Request where
  | run (options : Options)
  | help
  | version
  | usageError
  deriving DecidableEq, Repr

def Options.selection (o : Options) : Selection :=
  if !o.files.isEmpty then .named o.files
  else if o.all then .scan
  else .changes o.branch

inductive OptionName where
  | all
  | verbose
  | listRules
  | help
  | version
  | branch
  | config
  | format
  deriving DecidableEq, Repr

namespace OptionName

def ofLong? : String → Option OptionName
  | "all" => some all
  | "verbose" => some verbose
  | "list-rules" => some listRules
  | "help" => some help
  | "version" => some version
  | "branch" => some branch
  | "config" => some config
  | "format" => some format
  | _ => none

def ofShort? : Char → Option OptionName
  | 'a' => some all
  | 'v' => some verbose
  | 'h' => some help
  | 'V' => some version
  | 'b' => some branch
  | 'c' => some config
  | _ => none

def takesValue : OptionName → Bool
  | branch => true
  | config => true
  | format => true
  | _ => false

end OptionName

/-- One step: go on with more options, or stop with the request that is decided. -/
abbrev Step := Except Request Options

def withFlag (o : Options) : OptionName → Step
  | .all => if o.all then throw .usageError else return { o with all := true }
  | .verbose => if o.verbose then throw .usageError else return { o with verbose := true }
  | .listRules => if o.listRules then throw .usageError else return { o with listRules := true }
  | .help => throw .help
  | .version => throw .version
  | _ => throw .usageError

def withValue (o : Options) (name : OptionName) (value : Text.Bytes) : Step :=
  match name with
  | .branch =>
    match Text.decode? value with
    | some branch => if o.branch.isSome then throw .usageError else return { o with branch := some branch }
    | none => throw .usageError
  | .config =>
    if o.config.isSome || value.isEmpty then throw .usageError else return { o with config := some ⟨value⟩ }
  | .format =>
    if o.format.isSome then throw .usageError
    else
      match Text.decode? value with
      | some "text" => return { o with format := some .text }
      | some "json" => return { o with format := some .json }
      | _ => throw .usageError
  | _ => throw .usageError

def withFile (o : Options) (word : Text.Bytes) : Step :=
  if word.isEmpty then throw .usageError else return { o with files := o.files ++ [⟨word⟩] }

def dash : UInt8 := 0x2D

def equals : UInt8 := 0x3D

def isOption : Text.Bytes → Bool
  | b :: _ :: _ => b == dash
  | _ => false

/-- A word of short options; the last one may still need its value from the next word. -/
def shortOptions (o : Options) : Text.Bytes → Except Request (Options × Option OptionName)
  | [] => return (o, none)
  | b :: rest =>
    match OptionName.ofShort? (Char.ofNat b.toNat) with
    | none => throw .usageError
    | some name =>
      if name.takesValue then
        match rest with
        | [] => return (o, some name)
        | first :: value => do
          return (← withValue o name (if first == equals then value else first :: value), none)
      else do shortOptions (← withFlag o name) rest

def longOption (o : Options) (word : Text.Bytes) : Except Request (Options × Option OptionName) :=
  let (name, value) := word.span (· != equals)
  match (Text.decode? name).bind OptionName.ofLong? with
  | none => throw .usageError
  | some name =>
    match value with
    | _ :: value => if name.takesValue then do return (← withValue o name value, none) else throw .usageError
    | [] => if name.takesValue then return (o, some name) else do return (← withFlag o name, none)

/-- Reads the words, where `pending` is an option whose value comes next. -/
def readWords : List Text.Bytes → (pending : Option OptionName) → Options → Step
  | [], none, o => return o
  | [], some _, _ => throw .usageError
  | word :: rest, pending, o =>
    if isOption word then
      -- a value that looks like an option must be joined to its own
      if pending.isSome then throw .usageError
      else if word == [dash, dash] then rest.foldlM withFile o
      else do
        let letters := word.drop 1
        let (o, pending) ←
          if letters.head? == some dash then longOption o (letters.drop 1) else shortOptions o letters
        readWords rest pending o
    else
      match pending with
      | some name => do readWords rest none (← withValue o name word)
      | none => do readWords rest none (← withFile o word)

def Request.ofWords (words : List Text.Bytes) : Request :=
  match readWords words none {} with
  | .ok options => .run options
  | .error request => request

end HouseStyle.Command
