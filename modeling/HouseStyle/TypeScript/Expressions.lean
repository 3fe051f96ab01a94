import HouseStyle.TypeScript.Markup

/-!
Expressions. An operand is a primary expression with what may follow it; operands are joined by operators
level by level, and choices, assignments and functions stand outermost.
-/

set_option autoImplicit false
namespace HouseStyle.TypeScript

/-! Functions -/

def parenthesized (g : Grammar) : Parser Forest :=
  wrapped "parenthesized_expression" (all [mark "(", g.expressions, do
    if ← comesNext ":" then labelled "type" (typeClause g) else return [], mark ")"])

def functionExpression (g : Grammar) : Parser Forest := do
  let lead ← all [optionally (keyword "async"), keyword "function"]
  let star ← optionally (mark "*")
  let rest ← all [
    do if ← signatureAhead then return [] else labelled "name" (name "identifier"),
    callSignature g, body g]
  return bundle (if star.isEmpty then "function_expression" else "generator_function") (lead ++ star ++ rest)

def arrowBody (g : Grammar) (mode : Mode) : Parser Forest := do
  if ← comesNext "\x7b" then body g else labelled "body" (g.read (.expression mode))

def simpleArrow (g : Grammar) (mode : Mode) (lead : Forest) : Parser Forest := do
  let rest ← all [labelled "parameter" (name "identifier"), mark "=>", committed (arrowBody g mode)]
  return bundle "arrow_function" (lead ++ rest)

/-- An arrow on a signature. In the middle of a choice, one with a return type must leave the colon. -/
def signatureArrow (g : Grammar) (mode : Mode) (lead : Forest) : Parser Forest := do
  let signature ← callSignature g
  let typed := signature.any (·.info.role == some "return_type")
  let rest ← all [mark "=>", arrowBody g mode]
  if typed && mode.choice && !(← comesNext ":") then decline
  else return bundle "arrow_function" (lead ++ signature ++ rest)

def arrowOrParentheses (g : Grammar) (mode : Mode) (lead : Forest) (other : Parser Forest) :
    Parser Forest := do
  let after ← afterBrackets
  if "=>".toList.isPrefixOf after then committed (signatureArrow g mode lead)
  -- the colon may begin a return type, or the other outcome of a choice
  else if after.head? == some ':' then either (tentative (signatureArrow g mode lead)) other
  else other

/-! Primary expressions -/

def arrayLiteral (g : Grammar) : Parser Forest :=
  wrapped "array" (all [mark "[", holeyList (argument g), mark "]"])

def template (g : Grammar) : Parser Forest :=
  templateOf "template_string" "template_substitution" g.expressions

/-- Angle brackets before an expression: type parameters of an arrow, a type to assert, or markup. -/
def angled (g : Grammar) (mode : Mode) : Parser Forest :=
  either (tentative (signatureArrow g mode []))
    (if g.markup then element g
     else wrapped "type_assertion" (all [typeArguments g, g.read (.operand true)]))

def newExpression (g : Grammar) : Parser Forest := do
  let lead ← keyword "new"
  if (← upcomingOperator) == "." then
    return bundle "meta_property" (lead ++ (← all [mark ".", keyword "target"]))
  else
    let target ← labelled "constructor" (g.read (.operand false))
    let types ← (do
      if (← upcomingOperator) == "<" then optionally (tentative (labelled "type_arguments" (typeArguments g)))
      else return [])
    let values ← (do if ← comesNext "(" then labelled "arguments" (arguments g) else return [])
    return bundle "new_expression" (lead ++ target ++ types ++ values)

def importExpression : Parser Forest := do
  if (← afterName).head? == some '.' then
    wrapped "meta_property" (all [keyword "import", mark ".", keyword "meta"])
  else namedWord "import" "import"

def wordExpression (g : Grammar) (mode : Mode) : Parser Forest := do
  let word ← upcomingName
  let after ← afterName
  if word == "function" then functionExpression g
  else if word == "class" then classExpression g []
  else if word == "new" then newExpression g
  else if word == "import" then importExpression
  else if ["this", "super", "true", "false", "null", "undefined"].contains word then namedWord word word
  else if "=>".toList.isPrefixOf after then simpleArrow g mode []
  else if word == "async" && !(← nameEndsLine) then
    if nameAt after == "function" then functionExpression g
    else if nameAt after != "" && nameAt after != "in" && nameAt after != "instanceof" &&
        nameAt after != "as" && nameAt after != "satisfies" && nameAt after != "of" then
      simpleArrow g mode (← keyword "async")
    else if after.head? == some '<' then
      either (tentative (do signatureArrow g mode (← keyword "async"))) (name "identifier")
    else if after.head? == some '(' then
      either (tentative (do
        let lead ← keyword "async"
        arrowOrParentheses g mode lead decline)) (name "identifier")
    else name "identifier"
  else name "identifier"

def primary (g : Grammar) (mode : Mode) : Parser Forest := do
  match ← upcoming with
  | [] => decline
  | '(' :: _ => arrowOrParentheses g mode [] (parenthesized g)
  | '[' :: _ => arrayLiteral g
  | '\x7b' :: _ => objectLiteral g
  | '`' :: _ => template g
  | '"' :: _ => stringLiteral
  | '\'' :: _ => stringLiteral
  | '/' :: _ => token "regex" true regex?
  | '<' :: _ => angled g mode
  | '#' :: _ => privateName
  | '@' :: _ => do classExpression g (← decorators g)
  | '.' :: _ => numberLiteral
  | c :: _ => if isDigit c then numberLiteral else wordExpression g mode

/-! What follows a primary expression -/

/-- After type arguments an expression cannot begin here, so they stand alone. -/
def endsInstantiation (text : Chars) : Bool :=
  match text.head? with
  | none => true
  | some c => ")],;:\x7d".toList.contains c

/-- Type arguments that a call follows or that stand alone; anything else makes the angle an operator. -/
def instantiation (g : Grammar) (calls : Bool) : Parser Forest := do
  let types ← labelled "type_arguments" (typeArguments g)
  let next := (← upcoming).head?
  if next == some '`' || (calls && (next == some '(' || endsInstantiation (← upcoming) || (← onNewLine))) then
    return types
  else decline

def instantiated (g : Grammar) (target types : Forest) : Parser Forest := do
  let lead := inRole "function" target ++ types
  match (← upcoming).head? with
  | some '(' => return bundle "call_expression" (lead ++ (← labelled "arguments" (arguments g)))
  | some '`' => return bundle "call_expression" (lead ++ (← labelled "arguments" (template g)))
  | _ => return bundle "instantiation_expression" lead

def suffixes (g : Grammar) (mode : Mode) (calls : Bool) : Nat → Forest → Parser Forest
  | 0, target => pure target
  | fuel + 1, target => do
    let again := suffixes g mode calls fuel
    let sameLine := !(mode.lineEnds && (← onNewLine))
    let subscript (lead : Forest) : Parser Forest := do
      let index ← all [mark "[", labelled "index" g.expressions, mark "]"]
      return bundle "subscript_expression" (inRole "object" target ++ lead ++ index)
    let call (lead : Forest) : Parser Forest := do
      let values ← labelled "arguments" (arguments g)
      return bundle "call_expression" (inRole "function" target ++ lead ++ values)
    let member (lead : Forest) : Parser Forest := do
      let property ← labelled "property" (either privateName (name "property_identifier"))
      return bundle "member_expression" (inRole "object" target ++ lead ++ property)
    match ← upcoming with
    | '(' :: _ => if calls then again (← call []) else return target
    | '[' :: _ => again (← subscript [])
    | '`' :: _ =>
      again (bundle "call_expression" (inRole "function" target ++ (← labelled "arguments" (template g))))
    | _ =>
      match ← upcomingOperator with
      | "." => again (← member (← mark "."))
      | "?." =>
        let lead ← wrapped "optional_chain" (mark "?.")
        match ← upcoming with
        | '(' :: _ => again (← call lead)
        | '[' :: _ => again (← subscript lead)
        | _ => again (← member lead)
      | "!" =>
        -- on a line of its own it begins the next statement
        if sameLine then again (bundle "non_null_expression" (target ++ (← mark "!"))) else return target
      | op =>
        if op == "<" || op == "<<" then
          let types ← optionally (tentative (instantiation g calls))
          if types.isEmpty then return target
          else again (← committed (instantiated g target types))
        else return target

def operand (g : Grammar) (mode : Mode) (calls : Bool) : Parser Forest := do
  let first ← primary g mode
  -- nothing may follow an arrow but what its body takes
  if first.any (·.kind == "arrow_function") then return first
  else suffixes g mode calls (← get).room first

def postfixed (g : Grammar) (mode : Mode) : Parser Forest := do
  let target ← operand g mode true
  let op ← upcomingOperator
  if (op == "++" || op == "--") && !(mode.lineEnds && (← onNewLine)) then
    return bundle "update_expression" (inRole "argument" target ++ (← labelled "operator" (mark op)))
  else return target

/-! Operators -/

def prefixMarks : List String := ["!", "~", "-", "+"]

def prefixWords : List String := ["typeof", "void", "delete"]

/-- The next name begins an operand of the word before it, so that the word is an operator. -/
def operandFollows : Parser Bool := do
  match (← afterName).head? with
  | none => return false
  | some c => return !")],;:=?.&|\x7d".toList.contains c

def unary (g : Grammar) (mode : Mode) : Nat → Parser Forest
  | 0 => decline
  | depth + 1 => do
    let op ← upcomingOperator
    let word ← upcomingName
    if op == "++" || op == "--" then
      wrapped "update_expression" (all [labelled "operator" (mark op),
        labelled "argument" (unary g mode depth)])
    else if prefixMarks.contains op then
      wrapped "unary_expression" (all [labelled "operator" (mark op),
        labelled "argument" (unary g mode depth)])
    else if prefixWords.contains word then
      wrapped "unary_expression" (all [labelled "operator" (keyword word),
        labelled "argument" (unary g mode depth)])
    else if word == "await" && (← operandFollows) then
      wrapped "await_expression" (all [keyword word, unary g mode depth])
    else postfixed g mode

def levels : List (List String) :=
  [["??"], ["||"], ["&&"], ["|"], ["^"], ["&"], ["==", "!=", "===", "!=="],
    ["<", "<=", ">", ">=", "instanceof", "in", "as", "satisfies"], ["<<", ">>", ">>>"], ["+", "-"],
    ["*", "/", "%"]]

def upcomingInfix (mode : Mode) : Parser String := do
  let word ← upcomingName
  if word == "" then upcomingOperator
  else if word == "in" then return (if mode.loopHeader then "" else word)
  else if word == "as" || word == "satisfies" then
    return (if mode.lineEnds && (← onNewLine) then "" else word)
  else return word

def rightSide (g : Grammar) (mode : Mode) (op : String) (operand : Parser Forest) (left : Forest) :
    Parser Forest := do
  if op == "as" || op == "satisfies" then
    let type ← all [keyword op, g.read (.type mode.lineEnds)]
    return bundle (if op == "as" then "as_expression" else "satisfies_expression") (left ++ type)
  else
    let spelled := if (name? op.toList).isSome then keyword op else mark op
    let right ← all [labelled "operator" spelled, labelled "right" operand]
    return bundle "binary_expression" (inRole "left" left ++ right)

def joined (g : Grammar) (mode : Mode) (ops : List String) (operand : Parser Forest) :
    Nat → Forest → Parser Forest
  | 0, left => pure left
  | fuel + 1, left => do
    let op ← upcomingInfix mode
    if ops.contains op then
      joined g mode ops operand fuel (← rightSide g mode op operand left)
    else return left

def power (g : Grammar) (mode : Mode) : Nat → Parser Forest
  | 0 => decline
  | fuel + 1 => do
    let left ← unary g mode (← get).room
    if (← upcomingOperator) == "**" then rightSide g mode "**" (power g mode fuel) left
    else return left

def joinedLevels (g : Grammar) (mode : Mode) : List (List String) → Parser Forest
  | [] => do power g mode (← get).room
  | ops :: tighter => do
    let operand := joinedLevels g mode tighter
    let left ← operand
    if left.any (·.kind == "arrow_function") then return left
    else joined g mode ops operand (← get).room left

def choice (g : Grammar) (mode : Mode) : Parser Forest := do
  let condition ← joinedLevels g mode levels
  if condition.any (·.kind == "arrow_function") then return condition
  else if (← upcomingOperator) == "?" then
    let rest ← all [mark "?", labelled "consequence" (g.read (.expression { choice := true })), mark ":",
      labelled "alternative" (g.read (.expression mode))]
    return bundle "ternary_expression" (inRole "condition" condition ++ rest)
  else return condition

def augmentedMarks : List String :=
  ["+=", "-=", "*=", "/=", "%=", "^=", "&=", "|=", ">>=", ">>>=", "<<=", "**=", "&&=", "||=", "??="]

def patternAssignmentAhead : Parser Bool := do
  let next := (← upcoming).head?
  if next == some '[' || next == some '\x7b' then return operatorAt (← afterBrackets) == "="
  else return false

def yieldExpression (g : Grammar) (mode : Mode) : Parser Forest := do
  let lead ← keyword "yield"
  if ← comesNext "*" then
    return bundle "yield_expression" (lead ++ (← all [mark "*", g.read (.expression mode)]))
  else
    let text ← upcoming
    let stops := match text.head? with
      | none => true
      | some c => ")],;:\x7d".toList.contains c
    if stops || (mode.lineEnds && (← onNewLine)) then return bundle "yield_expression" lead
    else return bundle "yield_expression" (lead ++ (← g.read (.expression mode)))

def anyExpression (g : Grammar) (mode : Mode) : Parser Forest := do
  if (← upcomingName) == "yield" && !"=>".toList.isPrefixOf (← afterName) then yieldExpression g mode
  else if ← patternAssignmentAhead then
    wrapped "assignment_expression" (all [labelled "left" (placePattern g), equals,
      labelled "right" (g.read (.expression mode))])
  else
    let left ← choice g mode
    let op ← upcomingOperator
    if op == "=" then
      return bundle "assignment_expression" (inRole "left" left ++
        (← all [mark op, labelled "right" (g.read (.expression mode))]))
    else if augmentedMarks.contains op then
      return bundle "augmented_assignment_expression" (inRole "left" left ++
        (← all [labelled "operator" (mark op), labelled "right" (g.read (.expression mode))]))
    else return left

end HouseStyle.TypeScript
