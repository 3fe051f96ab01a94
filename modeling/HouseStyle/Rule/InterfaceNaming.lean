import HouseStyle.Rule.Basic
import HouseStyle.Text.Blank
import HouseStyle.Text.Search
import HouseStyle.Text.Word

/-!
Interfaces are named `I` and a capital letter, and by more than two characters. The names are taken from the
tree of the source, or from its text when there is no tree.
-/

set_option autoImplicit false
namespace HouseStyle.InterfaceNaming

def tag : RuleTag := ⟨"interface-naming", "GL002"⟩

def hasMark : List Char → Bool
  | 'I' :: c :: _ => Text.isAsciiUpper c
  | _ => false

def isShort (name : List Char) : Bool := name.length ≤ 2

def markMessage (name : String) : String :=
  "Interface '" ++ name ++
    "' must start with 'I' followed by an uppercase letter (e.g. IUser, IUserService). Current name: '" ++
    name ++ "'"

def shortMessage (name : String) : String :=
  "Interface name '" ++ name ++ "' is too short. Use a descriptive name such as IUser or IUserService."

/-- What is wrong with an interface's name at a position. -/
def checkName (subject : Subject) (position : Text.Position) (name : String) : List Finding :=
  (if hasMark name.toList then []
    else [(tag.finding subject .error (markMessage name)).atPosition position]) ++
  (if isShort name.toList then [(tag.finding subject .error (shortMessage name)).atPosition position]
    else [])

/-! In the tree -/

def checkNode (subject : Subject) (tree : Tree) (node : Node) : List Finding :=
  if node.kind == "interface_declaration" then
    match node.child? "name" with
    | some name => checkName subject (tree.position node) (tree.text name)
    | none => []
  else []

def checkTree (subject : Subject) (tree : Tree) : List Finding :=
  tree.sites.flatMap fun site => checkNode subject tree site.node

/-! In the text -/

def declaration? : Text.Matcher (List Char) := fun text =>
  match Text.after? "interface".toList text with
  | some rest => if rest.head?.any Text.isBlank then Text.identifier? (Text.trimStart rest) else none
  | none => none

def checkText (subject : Subject) (source : String) : List Finding :=
  (Text.occurrences declaration? source.toList).flatMap fun found =>
    checkName subject (Text.positionOf (Text.bytes source) found.offset) (String.ofList found.value)

def check (parse : SourceParser) (subject : Subject) (source : String) : List Finding :=
  match parse subject.path source with
  | some tree => checkTree subject tree
  | none => checkText subject source

def rule (parse : SourceParser) : Rule where
  name := tag.name
  code := tag.code
  description := "Interfaces must start with 'I' followed by an uppercase letter (e.g. IUser)"
  check read subject := .ofSource read subject (check parse subject)

end HouseStyle.InterfaceNaming
