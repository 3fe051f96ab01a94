import HouseStyle.Rule.Basic
import HouseStyle.Text.Blank
import HouseStyle.Text.Search
import HouseStyle.Text.Word

/-!
Routes of controllers declare what they return, and it is an object made for the purpose. A route is a
method marked with the name of a request, in a class marked as a controller. When the source has no tree,
its text is searched for marked methods, and only a missing return type can be told.
-/

set_option autoImplicit false
namespace HouseStyle.ControllerReturn

def tag : RuleTag := ⟨"controller-return-type", "GL003"⟩

def requests : List String := ["Get", "Post", "Put", "Delete", "Patch", "Options", "Head"]

/-! Return types -/

def primitives : List String := ["string", "number", "boolean", "any", "unknown", "void"]

def isPrimitive (name : String) : Bool := primitives.contains (name.map Text.asciiLower)

def transferEndings : List String := ["Dto", "Response", "Entity"]

def mentions (name part : String) : Bool := Text.occursIn part.toList name.toList

def endsWith (name ending : String) : Bool := ending.toList.isSuffixOf name.toList

def isCapitalized : List Char → Bool
  | [] => false
  | c :: rest => Text.isAsciiUpper c && rest.all Text.isAsciiAlphanumeric

def isValidReturn (name : String) : Bool :=
  !isPrimitive name &&
    (transferEndings.any (endsWith name) || mentions name "Promise" || mentions name "Array" ||
      endsWith name "[]" || isCapitalized name.toList)

def kindName (kind : String) : String := Text.pascalCase kind

/-- The name by which an annotation's type is judged. -/
def returnName (tree : Tree) (declared : Node) : String :=
  if declared.kind != "type_annotation" then kindName declared.kind
  else
    match declared.firstPart? with
    | none => kindName declared.kind
    | some type =>
      match type.kind with
      -- a name or an array is judged as it is spelled, other types by a word for their kind
      | "type_identifier" => tree.text type
      | "array_type" => tree.text type
      | "predefined_type" =>
        let word := tree.text type
        if primitives.contains word then word else Text.pascalCase word ++ "Keyword"
      | "generic_type" => ((type.child? "name").map tree.text).getD (kindName type.kind)
      | "nested_type_identifier" => ((type.child? "name").map tree.text).getD (kindName type.kind)
      | kind => kindName kind

/-! Decorators -/

def decoratorName? (tree : Tree) (decorator : Node) : Option String :=
  match decorator.firstPart? with
  | none => none
  | some target =>
    if target.kind == "identifier" then some (tree.text target)
    else if target.kind == "call_expression" then
      ((target.child? "function").filter (·.kind == "identifier")).map tree.text
    else none

def classKinds : List String := ["class_declaration", "abstract_class_declaration"]

def classDecorators (site : Site) : List Node :=
  site.node.partsOfKind "decorator" ++
    match site.parent with
    | some parent => if parent.kind == "export_statement" then parent.partsOfKind "decorator" else []
    | none => []

def isControllerClass (tree : Tree) (site : Site) : Bool :=
  classKinds.contains site.node.kind &&
    (classDecorators site).any (decoratorName? tree · == some "Controller")

/-- The decorators of a method: its own, and those right before it, nothing but comments between them. -/
def methodDecorators (site : Site) : List Node :=
  site.node.partsOfKind "decorator" ++
    (site.before.filter Node.isPart).reverse.takeWhile (·.kind == "decorator")

def isRoute (tree : Tree) (site : Site) : Bool :=
  ((methodDecorators site).filterMap (decoratorName? tree)).any requests.contains

/-! In the tree -/

def missingMessage (name : String) : String :=
  "Controller method '" ++ name ++
    "' must declare a return type. All controller actions must return DTO objects."

def invalidMessage (name type : String) : String :=
  "Controller method '" ++ name ++ "' returns '" ++ type ++
    "', but a DTO object is expected (e.g. UserDto, CreateUserResponseDto). Primitive types and 'any' are not allowed."

def asyncMessage (name : String) : String :=
  "Controller method '" ++ name ++ "' returns a Promise but is not marked async."

def checkReturn (subject : Subject) (tree : Tree) (method : Node) (name : String) : List Finding :=
  match method.child? "return_type" with
  | none => [(tag.finding subject .error (missingMessage name)).atPosition (tree.position method)]
  | some declared =>
    let type := returnName tree declared
    (if isValidReturn type then []
      else [(tag.finding subject .error (invalidMessage name type)).atPosition (tree.position declared)]) ++
    (if mentions type "Promise" && !method.hasChild "async" then
      [(tag.finding subject .warning (asyncMessage name)).atPosition (tree.position method)]
      else [])

def checkMethod (subject : Subject) (tree : Tree) (site : Site) : List Finding :=
  -- methods with other names, strings and numbers among them, are passed over
  match (site.node.child? "name").filter (·.kind == "property_identifier") with
  | some name => if isRoute tree site then checkReturn subject tree site.node (tree.text name) else []
  | none => []

def methods (body : Node) : List Site :=
  (Site.ofSiblings body [] body.children).filter (·.node.kind == "method_definition")

def checkClass (subject : Subject) (tree : Tree) (site : Site) : List Finding :=
  if isControllerClass tree site then
    match site.node.child? "body" with
    | some body => (methods body).flatMap (checkMethod subject tree)
    | none => []
  else []

def checkTree (subject : Subject) (tree : Tree) : List Finding :=
  tree.sites.flatMap (checkClass subject tree)

/-! In the text -/

/-- An at sign and the name of a request that no word character continues. -/
def afterRequest? (text : List Char) : Option (List Char) :=
  requests.findSome? fun request =>
    (Text.after? ('@' :: request.toList) text).filter fun rest => !rest.head?.any Text.isWordChar

def afterBlanks? (text : List Char) : Option (List Char) :=
  if text.head?.any Text.isBlank then some (Text.trimStart text) else none

def calledName? : Text.Matcher (List Char) := fun text =>
  match Text.identifier? text with
  | none => none
  | some (name, rest) =>
    match Text.trimStart rest with
    | '(' :: after => some (name, after)
    | _ => none

def method? : Text.Matcher (List Char) := fun text =>
  match afterBlanks? text with
  | none => none
  | some rest =>
    (((Text.after? "async".toList rest).bind afterBlanks?).bind calledName?).orElse fun _ =>
      calledName? rest

/-- The first method on the rest of the line or right after its end. -/
def nextMethod? : Text.Matcher (List Char)
  | [] => none
  | c :: rest =>
    (method? (c :: rest)).orElse fun _ => if c == '\n' then none else nextMethod? rest

def route? : Text.Matcher (List Char) := fun text => (afterRequest? text).bind nextMethod?

/-- The text up to the next opening brace declares no type. -/
def declaresNothing (text : List Char) : Bool :=
  !(text.takeWhile (· != '\x7b')).contains ':'

def fallbackMessage (name : String) : String :=
  "Controller method '" ++ name ++ "' must declare a return type (DTO object)."

def checkText (subject : Subject) (source : String) : List Finding :=
  ((Text.occurrences route? source.toList).filter fun found => declaresNothing found.text).map fun found =>
    (tag.finding subject .error (fallbackMessage (String.ofList found.value))).atLine
      (Text.positionOf (Text.bytes source) found.offset).line

def check (parse : SourceParser) (subject : Subject) (source : String) : List Finding :=
  match parse subject.path source with
  | some tree => checkTree subject tree
  | none => checkText subject source

/-- Only files whose path speaks of a controller are read. -/
def rule (parse : SourceParser) : Rule where
  name := tag.name
  code := tag.code
  description := "Controller actions must return DTO objects"
  check read subject :=
    if subject.isController then .ofSource read subject (check parse subject) else .findings []

end HouseStyle.ControllerReturn
