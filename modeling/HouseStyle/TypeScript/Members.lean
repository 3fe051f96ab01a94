import HouseStyle.TypeScript.Types

/-! Blocks of statements, the members of classes and of object literals, and classes themselves. -/

set_option autoImplicit false
namespace HouseStyle.TypeScript

def statements (g : Grammar) : Parser Forest :=
  many (do
    let text ← upcoming
    if text.isEmpty || text.head? == some '\x7d' then decline else committed g.statement)

/-- Statements in braces. A line end after them belongs to the block. -/
def statementBlock (g : Grammar) : Parser Forest :=
  wrapped "statement_block" (all [mark "\x7b", statements g, committed (mark "\x7d"),
    optionally (lineEnd {})])

def body (g : Grammar) : Parser Forest := labelled "body" (statementBlock g)

/-! Methods -/

def asyncWord : Parser Forest := do
  if (← upcomingName) == "async" && !(← nameEndsLine) &&
      (beginsPropertyName (← afterName) || (← afterName).head? == some '*') then keyword "async"
  else decline

def methodKind : Parser Forest := do
  if ← comesNext "*" then mark "*" else memberModifier ["get", "set"]

def signatureAhead : Parser Bool := do
  let text ← upcoming
  return text.head? == some '(' || text.head? == some '<'

/-! Object literals -/

def objectMember (g : Grammar) : Parser Forest := do
  if ← comesNext "..." then spreadElement g
  else
    let lead ← all [optionally asyncWord, optionally methodKind]
    let key ← propertyName g
    if ← signatureAhead then
      return bundle "method_definition" (lead ++ inRole "name" key ++ (← all [callSignature g, body g]))
    else if !lead.isEmpty then decline
    else if ← comesNext ":" then
      return bundle "pair" (inRole "key" key ++ (← all [mark ":", labelled "value" g.expression]))
    else if key.any (·.kind == "property_identifier") then
      return key.map fun n => if n.info.extra then n else Node.withKind "shorthand_property_identifier" n
    else decline

def objectLiteral (g : Grammar) : Parser Forest :=
  wrapped "object" (all [mark "\x7b", holeyList (objectMember g), mark "\x7d"])

/-! Members of classes -/

def reservedModifier (word : String) : Parser Forest := do
  if (← upcomingName) == word then keyword word else decline

def memberWords : Parser Forest :=
  all [optionally (memberModifier ["declare"]), optionally (memberModifier accessWords),
    optionally (memberModifier ["declare"]), optionally (memberModifier ["static"]),
    optionally (memberModifier ["override"]), optionally (memberModifier ["readonly"]),
    optionally (reservedModifier "abstract"), optionally (memberModifier ["override"]),
    optionally (memberModifier ["readonly"]), optionally (reservedModifier "accessor"),
    optionally asyncWord, optionally methodKind]

def memberEnd (context : LineContext) : Parser Forest := do
  if ← comesNext "," then mark "," else semicolon context

def fieldEnd (context : LineContext) : Parser Forest := committed (memberEnd context)

def fieldTail (g : Grammar) : Parser (Forest × Bool) := do
  let text ← upcoming
  let optional ← (if text.head? == some '?' then mark "?"
    else if text.head? == some '!' then mark "!" else pure [])
  let type ← optionalTypeClause g true
  let value ← optionally (initializer g { lineEnds := true })
  return (optional ++ type ++ value, !value.isEmpty)

/-- One member with what ends it. Decorators stand before a method and inside a field; no other member may
have them. -/
def classMember (g : Grammar) : Parser Forest := do
  let marks ← decorators g
  let decorated := marks.any (!·.info.extra)
  if ← comesNext ";" then (if decorated then decline else return marks ++ (← mark ";"))
  else if (← upcomingName) == "static" && (← afterName).head? == some '\x7b' then
    if decorated then decline
    else return marks ++ (← wrapped "class_static_block" (all [keyword "static", body g]))
  else if ← indexAhead then
    if decorated then decline
    else return marks ++ (← all [indexSignature g true, fieldEnd {}])
  else
    let words ← memberWords
    let name ← labelled "name" (propertyName g)
    let optional ← optionally questionMark
    let lead := words ++ name ++ optional
    if ← signatureAhead then
      let lead := lead ++ (← callSignature g true)
      let isAbstract := words.any (·.kind == "abstract")
      if ← comesNext "\x7b" then
        if isAbstract then decline
        else
          let method := bundle "method_definition" (lead ++ (← body g))
          return marks ++ method ++ (← optionally (semicolon {}))
      else if decorated then decline
      else
        let kind := if isAbstract then "abstract_method_signature" else "method_signature"
        return marks ++ bundle kind lead ++ (← fieldEnd { signature := true })
    else
      let (tail, valued) ← fieldTail g
      return bundle "public_field_definition" (marks ++ lead ++ tail) ++
        (← fieldEnd { expression := valued })

def classBody (g : Grammar) : Parser Forest :=
  wrapped "class_body" (all [mark "\x7b",
    many (do if ← comesNext "\x7d" then decline else committed (classMember g)),
    committed (mark "\x7d")])

/-! Classes -/

def superclass (g : Grammar) : Parser Forest :=
  all [labelled "value" (g.read (.operand true)), do
    if ← comesNext "<" then labelled "type_arguments" (typeArguments g) else return []]

def classHeritage (g : Grammar) : Parser Forest := do
  let parents ← (do
    if (← upcomingName) == "extends" then
      wrapped "extends_clause" (all [keyword "extends", commaList1 (superclass g)])
    else return [])
  let promises ← (do
    if (← upcomingName) == "implements" then
      wrapped "implements_clause" (all [keyword "implements", commaList1 g.type])
    else return [])
  return bundle "class_heritage" (parents ++ promises)

def classRest (g : Grammar) : Parser Forest :=
  all [optionalTypeParameters g, classHeritage g, labelled "body" (classBody g)]

/-- A name follows `class`, and it does not open the class's heritage. -/
def classNamed : Parser Bool := do
  let word := nameAt (← afterName)
  return word != "" && word != "extends" && word != "implements"

def classDeclaration (g : Grammar) (marks : Forest) : Parser Forest := do
  let rest ← all [keyword "class", labelled "name" (name "type_identifier"), committed (classRest g),
    optionally (lineEnd {})]
  return bundle "class_declaration" (marks ++ rest)

def abstractClassDeclaration (g : Grammar) (marks : Forest) : Parser Forest := do
  let rest ← all [keyword "abstract", keyword "class", labelled "name" (name "type_identifier"),
    committed (classRest g)]
  return bundle "abstract_class_declaration" (marks ++ rest)

def classExpression (g : Grammar) (marks : Forest) : Parser Forest := do
  let named ← classNamed
  let rest ← all [keyword "class", onlyIf named (labelled "name" (name "type_identifier")),
    committed (classRest g)]
  return bundle "class" (marks ++ rest)

end HouseStyle.TypeScript
