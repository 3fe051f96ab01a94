import HouseStyle.Rule.Basic
import HouseStyle.Text.Word

/-! File names begin with a capital letter and are written without separators. -/

set_option autoImplicit false
namespace HouseStyle.FileNaming

def tag : RuleTag := ⟨"file-naming", "GL001"⟩

def defaultExemptions : List String :=
  ["main.ts", "index.ts", "app.module.ts", "app.controller.ts", "app.service.ts"]

def isExempt (exemptions : List String) (fileName : String) : Bool :=
  (exemptions.map Text.lowercase).contains (Text.lowercase fileName)

def extension : List Char := ['.', 't', 's']

def stem? (fileName : List Char) : Option (List Char) :=
  if extension.isSuffixOf fileName then some (fileName.take (fileName.length - extension.length)) else none

def base (fileName : List Char) : List Char := (stem? fileName).getD fileName

def startsUpper (text : List Char) : Bool := text.head?.any Text.isAsciiUpper

def isAllowed (c : Char) : Bool := Text.isAsciiAlphanumeric c || c == '.' || c == '-'

/-- The extension after one allowed character or more. -/
def hasAllowedCharacters (fileName : List Char) : Bool :=
  match stem? fileName with
  | some stem => !stem.isEmpty && stem.all isAllowed
  | none => false

def hasSeparator (text : List Char) : Bool := text.any Text.isWordSeparator

def capitalMessage (fileName : String) : String :=
  "File name '" ++ fileName ++ "' must start with an uppercase letter. Expected format: 'FileName.ts'"

def charactersMessage (fileName : String) : String :=
  "File name '" ++ fileName ++
    "' contains disallowed characters. Only letters, digits, hyphens and dots are allowed."

def suggestion (fileName : String) : String :=
  Text.pascalCase (String.ofList (base fileName.toList)) ++ ".ts"

def separatorMessage (fileName : String) : String :=
  "File name '" ++ fileName ++
    "' should use PascalCase instead of kebab-case or snake_case. Suggested name: '" ++
    suggestion fileName ++ "'"

def check (exemptions : List String) (subject : Subject) : List Finding :=
  let fileName := subject.fileName
  let chars := fileName.toList
  if isExempt exemptions fileName then []
  else
    (if startsUpper (base chars) then [] else [tag.finding subject .error (capitalMessage fileName)]) ++
    (if hasAllowedCharacters chars then []
      else [tag.finding subject .error (charactersMessage fileName)]) ++
    (if hasSeparator (base chars) then [tag.finding subject .warning (separatorMessage fileName)] else [])

def rule (exemptions : List String := defaultExemptions) : Rule where
  name := tag.name
  code := tag.code
  description := "File names must start with an uppercase letter (e.g. UserService.ts)"
  check _ subject := .findings (check exemptions subject)

end HouseStyle.FileNaming
