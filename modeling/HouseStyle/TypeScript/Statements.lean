import HouseStyle.TypeScript.Expressions

/-! Statements other than declarations. -/

set_option autoImplicit false
namespace HouseStyle.TypeScript

/-- The forest ends with the block of an arrow function, to a depth of assignments. -/
def endsInBlock : Nat → Forest → Bool
  | 0, _ => false
  | depth + 1, forest =>
    match forest.getLast? with
    | some n =>
      n.kind == "statement_block" ||
        (["arrow_function", "assignment_expression"].contains n.kind && endsInBlock depth n.children)
    | none => false

/-- After an expression, the line may not end before an opening bracket, unless a block ends it. -/
def after (forest : Forest) : LineContext := { expression := !endsInBlock 8 forest }

def ended (p : Parser Forest) : Parser Forest := do
  let forest ← p
  return forest ++ (← semicolon (after forest))

def expressionStatement (g : Grammar) : Parser Forest :=
  wrapped "expression_statement" (ended (g.expressions { lineEnds := true }))

/-! Variables -/

def declarator (g : Grammar) (mode : Mode) : Parser (Forest × LineContext) := do
  let name ← labelled "name" (pattern g)
  let certain ← (do if (← upcomingOperator) == "!" then mark "!" else return [])
  let type ← optionalTypeClause g mode.lineEnds
  let value ← optionally (initializer g mode)
  return (bundle "variable_declarator" (name ++ certain ++ type ++ value),
    if value.isEmpty then {} else after value)

def declarators (g : Grammar) (mode : Mode) : Nat → Forest × LineContext → Parser (Forest × LineContext)
  | 0, found => pure found
  | fuel + 1, (forest, context) => do
    if ← comesNext "," then
      let comma ← mark ","
      let (next, context) ← declarator g mode
      declarators g mode fuel (forest ++ comma ++ next, context)
    else return (forest, context)

def bindings (g : Grammar) (word : String) (mode : Mode) : Parser Forest := do
  let lead ← (if word == "var" then keyword word else labelled "kind" (keyword word))
  let first ← declarator g mode
  let (found, context) ← declarators g mode (← get).room first
  let stop ← committed (semicolon context)
  return bundle (if word == "var" then "variable_declaration" else "lexical_declaration")
    (lead ++ found ++ stop)

/-- Words that cannot be the first thing declared. -/
def wordsAfterName : List String := ["in", "instanceof", "of", "as", "satisfies"]

def letDeclares : Parser Bool := do
  match (← afterName).head? with
  | some c =>
    return (isNameStart c || c == '\\' || c == '[' || c == '\x7b') &&
      !wordsAfterName.contains (nameAt (← afterName))
  | none => return false

/-! Branches and loops -/

def ifStatement (g : Grammar) : Parser Forest :=
  wrapped "if_statement" (all [keyword "if", labelled "condition" (parenthesized g),
    labelled "consequence" g.statement, do
      if (← upcomingName) == "else" then
        labelled "alternative" (wrapped "else_clause" (all [keyword "else", g.statement]))
      else return []])

def whileStatement (g : Grammar) : Parser Forest :=
  wrapped "while_statement" (all [keyword "while", labelled "condition" (parenthesized g),
    labelled "body" g.statement])

def doStatement (g : Grammar) : Parser Forest :=
  wrapped "do_statement" (all [keyword "do", labelled "body" g.statement, keyword "while",
    labelled "condition" (parenthesized g), optionally (semicolon {})])

def emptyStatement : Parser Forest := wrapped "empty_statement" (mark ";")

def countedHeader (g : Grammar) : Parser Forest :=
  all [mark "(",
    labelled "initializer" (do
      let word ← upcomingName
      if ← comesNext ";" then emptyStatement
      else if word == "var" || word == "const" || (word == "let" && (← letDeclares)) then
        bindings g word { loopHeader := true }
      else wrapped "expression_statement" (all [g.expressions { loopHeader := true }, mark ";"])),
    labelled "condition" (do
      if ← comesNext ";" then emptyStatement
      else wrapped "expression_statement" (all [g.expressions, mark ";"])),
    do if ← comesNext ")" then return [] else labelled "increment" g.expressions,
    mark ")"]

def runningHeader (g : Grammar) : Parser Forest :=
  all [mark "(",
    do
      let word ← upcomingName
      if word == "var" || word == "const" || (word == "let" && (← letDeclares)) then
        all [labelled "kind" (keyword word), labelled "left" (pattern g),
          onlyIf (word == "var") (optionally (initializer g { loopHeader := true }))]
      else
        let text ← upcoming
        if text.head? == some '\x7b' || text.head? == some '[' then labelled "left" (placePattern g)
        else labelled "left" (g.read (.operand true)),
    labelled "operator" (do
      let word ← upcomingName
      if word == "in" || word == "of" then keyword word else decline),
    labelled "right" g.expressions, mark ")"]

def forStatement (g : Grammar) : Parser Forest := do
  let lead ← keyword "for"
  let awaits ← (do if (← upcomingName) == "await" then keyword "await" else return [])
  let running : Parser Forest := do
    let rest ← all [tentative (runningHeader g), labelled "body" (committed g.statement)]
    return bundle "for_in_statement" (lead ++ awaits ++ rest)
  let counted : Parser Forest := do
    let rest ← all [countedHeader g, labelled "body" g.statement]
    return bundle "for_statement" (lead ++ rest)
  if awaits.isEmpty then either running counted else running

def switchCase (g : Grammar) : Parser Forest := do
  let word ← upcomingName
  let consequence : Parser Forest := labelled "body" (many (do
    let text ← upcoming
    let next ← upcomingName
    if text.isEmpty || text.head? == some '\x7d' || next == "case" ||
        (next == "default" && (← afterName).head? == some ':') then decline
    else committed g.statement))
  if word == "case" then
    wrapped "switch_case" (all [keyword "case", labelled "value" g.expressions, mark ":", consequence])
  else if word == "default" then
    wrapped "switch_default" (all [keyword "default", mark ":", consequence])
  else decline

def switchStatement (g : Grammar) : Parser Forest :=
  wrapped "switch_statement" (all [keyword "switch", labelled "value" (parenthesized g),
    labelled "body" (wrapped "switch_body" (all [mark "\x7b", many (switchCase g), mark "\x7d"]))])

/-! Leaving and failing -/

def leaving (kind word : String) (operand : Parser Forest) : Parser Forest :=
  wrapped kind (all [keyword word, either (semicolon {}) operand])

def tryStatement (g : Grammar) : Parser Forest := do
  let caught : Parser Forest := do
    if (← upcomingName) == "catch" then
      labelled "handler" (wrapped "catch_clause" (all [keyword "catch", do
        if ← comesNext "(" then
          all [mark "(", labelled "parameter" (pattern g), optionalTypeClause g, mark ")"]
        else return [],
        body g]))
    else return []
  let always : Parser Forest := do
    if (← upcomingName) == "finally" then
      labelled "finalizer" (wrapped "finally_clause" (all [keyword "finally", body g]))
    else return []
  wrapped "try_statement" (all [keyword "try", body g, caught, always])

def wordStatement (g : Grammar) (word : String) : Option (Parser Forest) :=
  match word with
  | "if" => some (ifStatement g)
  | "while" => some (whileStatement g)
  | "do" => some (doStatement g)
  | "for" => some (forStatement g)
  | "switch" => some (switchStatement g)
  | "try" => some (tryStatement g)
  | "return" =>
    some (leaving "return_statement" word (ended (g.expressions { lineEnds := true })))
  | "throw" =>
    some (wrapped "throw_statement" (all [keyword word, ended (g.expressions { lineEnds := true })]))
  | "break" =>
    some (leaving "break_statement" word (all [labelled "label" (name "statement_identifier"),
      semicolon {}]))
  | "continue" =>
    some (leaving "continue_statement" word (all [labelled "label" (name "statement_identifier"),
      semicolon {}]))
  | "debugger" => some (wrapped "debugger_statement" (all [keyword word, semicolon {}]))
  | "with" =>
    some (wrapped "with_statement" (all [keyword word, labelled "object" (parenthesized g),
      labelled "body" g.statement]))
  | _ => none

def labeledStatement (g : Grammar) : Parser Forest :=
  wrapped "labeled_statement" (all [labelled "label" (name "statement_identifier"), mark ":",
    labelled "body" g.statement])

end HouseStyle.TypeScript
