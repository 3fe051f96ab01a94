import HouseStyle.TypeScript.Parser

/-!
The heads of functions and what they are made of: patterns, parameters, decorators, type annotations, type
parameters and arguments, return types, and the names of properties.
-/

set_option autoImplicit false
namespace HouseStyle.TypeScript

/-! Names and literals -/

def stringLiteral : Parser Forest := token "string" true string?

def numberLiteral : Parser Forest := token "number" true number?

def privateName : Parser Forest := token "private_property_identifier" true privateName?

def equals : Parser Forest := do
  if (← upcomingOperator) == "=" then mark "=" else decline

/-- `?` alone, not followed by another operator character. -/
def questionMark : Parser Forest := do
  if (← upcomingOperator) == "?" then mark "?" else decline

def computedName (g : Grammar) : Parser Forest :=
  wrapped "computed_property_name" (all [mark "[", g.expression, mark "]"])

def propertyName (g : Grammar) : Parser Forest := do
  match (← upcoming).head? with
  | some '[' => computedName g
  | some '#' => privateName
  | some '"' => stringLiteral
  | some '\'' => stringLiteral
  | some c => if isDigit c || c == '.' then numberLiteral else name "property_identifier"
  | none => decline

def beginsPropertyName (text : Chars) : Bool :=
  match text.head? with
  | some c => isNameStart c || isDigit c || c == '\\' || c == '[' || c == '#' || c == '"' || c == '\''
  | none => false

/-! Types in other things -/

def typeClause (g : Grammar) (lineEnds : Bool := false) : Parser Forest :=
  wrapped "type_annotation" (all [mark ":", g.read (.type lineEnds)])

def optionalTypeClause (g : Grammar) (lineEnds : Bool := false) : Parser Forest := do
  if ← comesNext ":" then labelled "type" (typeClause g lineEnds) else return []

def typeArguments (g : Grammar) : Parser Forest :=
  wrapped "type_arguments" (all [mark "<", g.type, many (all [mark ",", g.type]), optionally (mark ","),
    mark ">"])

def constraint (g : Grammar) : Parser Forest := do
  if (← upcomingName) == "extends" then wrapped "constraint" (all [keyword "extends", g.type])
  else if ← comesNext ":" then wrapped "constraint" (all [mark ":", g.type])
  else return []

def typeParameter (g : Grammar) : Parser Forest := do
  let constant := (← upcomingName) == "const" && isNameStart ((← afterName).headD ' ')
  wrapped "type_parameter" (all [
    onlyIf constant (keyword "const"),
    labelled "name" (name "type_identifier"),
    labelled "constraint" (constraint g),
    labelled "value" (optionally (wrapped "default_type" (all [equals, g.type])))])

def typeParameters (g : Grammar) : Parser Forest :=
  wrapped "type_parameters" (all [mark "<", typeParameter g, many (all [mark ",", typeParameter g]),
    optionally (mark ","), mark ">"])

def optionalTypeParameters (g : Grammar) : Parser Forest := do
  if ← comesNext "<" then labelled "type_parameters" (typeParameters g) else return []

/-! Decorators -/

def spreadElement (g : Grammar) : Parser Forest :=
  wrapped "spread_element" (all [mark "...", g.expression])

def argument (g : Grammar) : Parser Forest := do
  if ← comesNext "..." then spreadElement g else g.expression

def arguments (g : Grammar) : Parser Forest :=
  wrapped "arguments" (all [mark "(", holeyList (argument g), mark ")"])

/-- More members of what has been read, as `.b.c` after `a`. -/
def memberChain : Nat → Forest → Parser Forest
  | 0, object => pure object
  | fuel + 1, object => do
    if (← upcomingOperator) == "." then
      let dot ← mark "."
      let property ← labelled "property" (either privateName (name "property_identifier"))
      let object := inRole "object" object
      memberChain fuel (bundle "member_expression" (object ++ dot ++ property))
    else return object

def decoratorTarget (g : Grammar) : Parser Forest := do
  let first ← name "identifier"
  let target ← memberChain (← get).room first
  let next := (← upcoming).head?
  if next == some '(' || next == some '<' then
    let target := inRole "function" target
    let call ← all [onlyIf (next == some '<') (labelled "type_arguments" (typeArguments g)),
      labelled "arguments" (arguments g)]
    return bundle "call_expression" (target ++ call)
  else return target

def decorator (g : Grammar) : Parser Forest :=
  wrapped "decorator" (all [mark "@", do
    if ← comesNext "(" then
      wrapped "parenthesized_expression" (all [mark "(", decoratorTarget g, mark ")"])
    else decoratorTarget g])

def decorators (g : Grammar) : Parser Forest :=
  labelled "decorator" (many (decorator g))

/-! Patterns -/

def initializer (g : Grammar) (mode : Mode := {}) : Parser Forest :=
  all [equals, labelled "value" (g.read (.expression mode))]

/-- What stands in a pattern, by its depth of nesting; `places` tells that members of objects may, too. -/
def patternWithin (g : Grammar) (places : Bool) : Nat → Parser Forest
  | 0 => decline
  | depth + 1 => do
    let pattern := patternWithin g places depth
    /- A pattern, perhaps with a default. -/
    let withDefault : Parser Forest := do
      let left ← pattern
      let default ← optionally (all [equals, labelled "right" g.expression])
      if default.isEmpty then return left
      else
        let left := inRole "left" left
        return bundle "assignment_pattern" (left ++ default)
    let member : Parser Forest := do
      if ← comesNext "..." then wrapped "rest_pattern" (all [mark "...", pattern])
      else
        let key ← propertyName g
        if ← comesNext ":" then
          let key := inRole "key" key
          let value ← all [mark ":", labelled "value" withDefault]
          return bundle "pair_pattern" (key ++ value)
        else
          let short := key.map fun n =>
            if n.kind == "property_identifier" then
              Node.withKind "shorthand_property_identifier_pattern" n
            else n
          if short.any (fun n => !n.info.extra && n.kind != "shorthand_property_identifier_pattern") then
            decline
          let default ← optionally (all [equals, labelled "right" g.expression])
          if default.isEmpty then return short
          else
            let short := inRole "left" short
            return bundle "object_assignment_pattern" (short ++ default)
    match (← upcoming).head? with
    | some '\x7b' => wrapped "object_pattern" (all [mark "\x7b", holeyList member, mark "\x7d"])
    | some '[' => wrapped "array_pattern" (all [mark "[", holeyList withDefault, mark "]"])
    | some '.' => wrapped "rest_pattern" (all [mark "...", pattern])
    | _ =>
      if places then g.read (.operand true)
      else if (← upcomingName) == "this" then namedWord "this" "this"
      else name "identifier"

def pattern (g : Grammar) : Parser Forest := do
  patternWithin g false (← get).room

def placePattern (g : Grammar) : Parser Forest := do
  patternWithin g true (← get).room

/-! Parameters -/

def accessWords : List String := ["public", "private", "protected"]

/-- The next name is a word in front of a pattern, not the pattern itself. -/
def modifiesPattern : Parser Bool := do
  match (← afterName).head? with
  | some c => return isNameStart c || c == '\x7b' || c == '['
  | none => return false

def parameterModifier : Parser Forest := do
  let word ← upcomingName
  if ← modifiesPattern then
    if accessWords.contains word then wrapped "accessibility_modifier" (keyword word)
    else if word == "override" then namedWord "override_modifier" "override"
    else if word == "readonly" then keyword "readonly"
    else decline
  else decline

def parameter (g : Grammar) : Parser Forest := do
  let name ← all [decorators g, many parameterModifier, labelled "pattern" (pattern g)]
  let optional ← optionally (mark "?")
  let rest ← all [optionalTypeClause g, optionally (initializer g)]
  return bundle (if optional.isEmpty then "required_parameter" else "optional_parameter")
    (name ++ optional ++ rest)

def formalParameters (g : Grammar) : Parser Forest :=
  wrapped "formal_parameters" (all [mark "(", commaList (parameter g), mark ")"])

/-! Return types -/

def typePredicate (g : Grammar) (lineEnds : Bool) : Parser Forest :=
  wrapped "type_predicate" (all [
    labelled "name" (do
      if (← upcomingName) == "this" then namedWord "this" "this" else name "identifier"),
    keyword "is", labelled "type" (g.read (.type lineEnds))])

def predicateAhead : Parser Bool := do
  return (← upcomingName) != "" && nameAt (← afterName) == "is"

def assertion (g : Grammar) (lineEnds : Bool) : Parser Forest :=
  wrapped "asserts" (all [keyword "asserts", do
    if ← predicateAhead then typePredicate g lineEnds
    else if (← upcomingName) == "this" then namedWord "this" "this"
    else name "identifier"])

def assertionAhead : Parser Bool := do
  return (← upcomingName) == "asserts" && nameAt (← afterName) != "" && nameAt (← afterName) != "is" &&
    !(← nameEndsLine)

def returnType (g : Grammar) (lineEnds : Bool) : Parser Forest := do
  let colon ← mark ":"
  if ← assertionAhead then return bundle "asserts_annotation" (colon ++ (← assertion g lineEnds))
  else if ← predicateAhead then
    return bundle "type_predicate_annotation" (colon ++ (← typePredicate g lineEnds))
  else return bundle "type_annotation" (colon ++ (← g.read (.type lineEnds)))

def callSignature (g : Grammar) (lineEnds : Bool := false) : Parser Forest :=
  all [optionalTypeParameters g, labelled "parameters" (formalParameters g), do
    if ← comesNext ":" then labelled "return_type" (returnType g lineEnds) else return []]

end HouseStyle.TypeScript
