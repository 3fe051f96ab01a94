import HouseStyle.Disk
import HouseStyle.Finding
import HouseStyle.Text.Case
import HouseStyle.Tree.Node

/-! What a rule is, what it is told about a file, and how its check of a file may end. -/

set_option autoImplicit false
namespace HouseStyle

/-- The file a rule looks at: the path it is reported under and the path it is read from. -/
structure Subject where
  path : Path
  location : Path
  deriving DecidableEq, Repr

namespace Subject

def ofPath (path : Path) : Subject := ⟨path, path⟩

def fileName (s : Subject) : String := s.path.shownName

def lowercasePath (s : Subject) : String := Text.lowercase s.path.display

def isController (s : Subject) : Bool :=
  Text.occursIn "controller".toList s.lowercasePath.toList

end Subject

inductive RuleError where
  | unreadable (location : Path) (cause : IoError)
  | unexpectedSyntax (path : Path) (complaint : String)
  | badPattern (complaint : String)
  deriving DecidableEq, Repr

def RuleError.message : RuleError → String
  | .unreadable location cause => "cannot read " ++ location.display ++ ": " ++ cause.message
  | .unexpectedSyntax path complaint => "unexpected syntax in " ++ path.display ++ ": " ++ complaint
  | .badPattern complaint => "invalid fallback pattern: " ++ complaint

/-- How a check ends: with findings, with an error, or broken off, perhaps for a reason it could give. -/
inductive Verdict where
  | findings (found : List Finding)
  | failed (error : RuleError)
  | brokenOff (reason : Option String)
  deriving DecidableEq, Repr

abbrev Reader := Path → Except IoError String

structure Rule where
  name : String
  code : String
  description : String
  check : Reader → Subject → Verdict

structure RuleTag where
  name : String
  code : String
  deriving DecidableEq, Repr

def RuleTag.finding (tag : RuleTag) (subject : Subject) (severity : Severity) (message : String) : Finding :=
  { code := tag.code, rule := tag.name, file := subject.path, message, severity }

/-- Reads the source of a file, whose path tells the language; there is no tree of a malformed source. -/
abbrev SourceParser := Path → String → Option Tree

def Verdict.ofSource (read : Reader) (subject : Subject) (check : String → List Finding) : Verdict :=
  match read subject.location with
  | .ok source => .findings (check source)
  | .error cause => .failed (.unreadable subject.location cause)

end HouseStyle
