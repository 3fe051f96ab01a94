import HouseStyle.TypeScript.Statements

/-! Declarations, what a module imports and exports, and the choice among all statements. -/

set_option autoImplicit false
namespace HouseStyle.TypeScript

/-! Types and modules -/

def interfaceDeclaration (g : Grammar) : Parser Forest :=
  wrapped "interface_declaration" (all [keyword "interface", labelled "name" (name "type_identifier"),
    optionalTypeParameters g, do
      if (← upcomingName) == "extends" then
        wrapped "extends_type_clause" (all [keyword "extends",
          commaList1 (labelled "type" (typeReference g))])
      else return [],
    labelled "body" (objectType g "interface_body")])

def enumMember (g : Grammar) : Parser Forest := do
  let name ← propertyName g
  let value ← optionally (initializer g)
  return if value.isEmpty then inRole "name" name
    else bundle "enum_assignment" (inRole "name" name ++ value)

def enumDeclaration (g : Grammar) : Parser Forest :=
  wrapped "enum_declaration" (all [optionally (keyword "const"), keyword "enum",
    labelled "name" (name "identifier"),
    labelled "body" (wrapped "enum_body" (all [mark "\x7b", commaList (enumMember g), mark "\x7d"]))])

def typeAlias (g : Grammar) : Parser Forest :=
  wrapped "type_alias_declaration" (all [keyword "type", labelled "name" (name "type_identifier"),
    optionalTypeParameters g, equals, labelled "value" (g.read (.type true)), semicolon {}])

def dottedName : Parser Forest := do
  let first ← name "identifier"
  let rec more : Nat → Forest → Parser Forest
    | 0, found => pure found
    | fuel + 1, found => do
      if ← comesNext "." then
        let rest ← all [mark ".", labelled "property" (name "property_identifier")]
        more fuel (bundle "nested_identifier" (inRole "object" found ++ rest))
      else return found
  more (← get).room first

/-- A module's name and its body, which may be missing. -/
def moduleRest (g : Grammar) : Parser Forest :=
  all [labelled "name" (do
      let text ← upcoming
      if text.head? == some '"' || text.head? == some '\'' then stringLiteral else dottedName),
    do if ← comesNext "\x7b" then body g else return []]

def moduleDeclaration (g : Grammar) : Parser Forest :=
  wrapped "module" (all [keyword "module", moduleRest g])

def internalModule (g : Grammar) : Parser Forest :=
  wrapped "internal_module" (all [keyword "namespace", moduleRest g])

/-! Functions -/

def functionDeclaration (g : Grammar) : Parser Forest := do
  let lead ← all [optionally (keyword "async"), keyword "function"]
  let star ← optionally (mark "*")
  let head ← all [labelled "name" (name "identifier"), callSignature g true]
  if ← comesNext "\x7b" then
    let rest ← all [body g, optionally (lineEnd {})]
    return bundle (if star.isEmpty then "function_declaration" else "generator_function_declaration")
      (lead ++ star ++ head ++ rest)
  else if star.isEmpty then
    return bundle "function_signature" (lead ++ head ++ (← committed (semicolon { signature := true })))
  else decline

/-! Which declaration comes next -/

def nameFollows : Parser Bool := do
  return nameAt (← afterName) != "" && !(← nameEndsLine)

def functionUnnamed : Parser Bool := do
  let after ← afterName
  let after := if after.head? == some '*' then afterTrivia (after.drop 1) else after
  return after.head? == some '(' || after.head? == some '<'

def plainDeclaration (g : Grammar) (ambient : Parser Forest) : Parser Forest := do
  let next := nameAt (← afterName)
  match ← upcomingName with
  | "function" => if ← functionUnnamed then decline else functionDeclaration g
  | "async" => if next == "function" && !(← nameEndsLine) then functionDeclaration g else decline
  | "interface" => if next != "" then committed (interfaceDeclaration g) else decline
  | "enum" => if next != "" then committed (enumDeclaration g) else decline
  | "const" =>
    if next == "enum" then committed (enumDeclaration g)
    else committed (bindings g "const" { lineEnds := true })
  | "var" => committed (bindings g "var" { lineEnds := true })
  | "let" => if ← letDeclares then bindings g "let" { lineEnds := true } else decline
  | "type" => if ← nameFollows then typeAlias g else decline
  | "namespace" => if ← nameFollows then internalModule g else decline
  | "module" =>
    let after ← afterName
    let quoted := after.head? == some '"' || after.head? == some '\''
    if (quoted || next != "") && !(← nameEndsLine) then moduleDeclaration g else decline
  | "declare" => if (← nameFollows) && next != "in" && next != "of" then ambient else decline
  | _ => decline

/-- What is declared by the words that come next, if they begin a declaration; `marks` are decorators read
before it, which only classes may have. -/
def declaration (g : Grammar) (marks : Forest) (ambient : Parser Forest) : Parser Forest := do
  let word ← upcomingName
  if word == "class" && (← classNamed) then classDeclaration g marks
  else if word == "abstract" && nameAt (← afterName) == "class" then abstractClassDeclaration g marks
  else if marks.any (!·.info.extra) then decline
  else return marks ++ (← plainDeclaration g ambient)

/-- A declaration of something that exists elsewhere, `declare` in front, to a depth of such words. -/
def ambientDeclaration (g : Grammar) : Nat → Parser Forest
  | 0 => decline
  | depth + 1 =>
    wrapped "ambient_declaration" (all [keyword "declare", do
      if (← upcomingName) == "global" && (← afterName).head? == some '\x7b' then
        all [keyword "global", statementBlock g]
      else declaration g [] (ambientDeclaration g depth)])

def anyDeclaration (g : Grammar) (marks : Forest) : Parser Forest := do
  declaration g marks (ambientDeclaration g (← get).room)

/-! Imports -/

def fromClause : Parser Forest := all [keyword "from", labelled "source" stringLiteral]

def importAttribute (g : Grammar) : Parser Forest := do
  let word ← upcomingName
  if (word == "with" || word == "assert") && (← afterName).head? == some '\x7b' then
    wrapped "import_attribute" (all [keyword word, objectLiteral g])
  else return []

def exportedName : Parser Forest := do
  let text ← upcoming
  if text.head? == some '"' || text.head? == some '\'' then stringLiteral else name "identifier"

def specifier (kind : String) : Parser Forest := do
  let next := nameAt (← afterName)
  let word ← upcomingName
  let typed := (word == "type" || word == "typeof") && next != "" && next != "as"
  wrapped kind (all [onlyIf typed (keyword word), labelled "name" exportedName, do
    if (← upcomingName) == "as" then all [keyword "as", labelled "alias" exportedName] else return []])

def namedImports : Parser Forest :=
  wrapped "named_imports" (all [mark "\x7b", commaList (specifier "import_specifier"), mark "\x7d"])

def namespaceImport : Parser Forest :=
  wrapped "namespace_import" (all [mark "*", keyword "as", name "identifier"])

def importClause : Parser Forest := do
  match (← upcoming).head? with
  | some '*' => wrapped "import_clause" namespaceImport
  | some '\x7b' => wrapped "import_clause" namedImports
  | _ =>
    wrapped "import_clause" (all [name "identifier", do
      if ← comesNext "," then
        all [mark ",", do if ← comesNext "*" then namespaceImport else namedImports]
      else return []])

def importEquals (lead : Forest) : Parser Forest := do
  let target ← name "identifier"
  let sign ← equals
  if (← upcomingName) == "require" && (← afterName).head? == some '(' then
    let clause := bundle "import_require_clause" (target ++ sign ++ (← all [keyword "require", mark "(",
      labelled "source" stringLiteral, mark ")"]))
    return bundle "import_statement" (lead ++ clause ++ (← semicolon {}))
  else return bundle "import_alias" (lead ++ target ++ sign ++ (← all [dottedName, semicolon {}]))

def importStatement (g : Grammar) : Parser Forest := do
  let lead ← keyword "import"
  let text ← upcoming
  if text.head? == some '"' || text.head? == some '\'' then
    return bundle "import_statement" (lead ++ (← all [labelled "source" stringLiteral, importAttribute g,
      semicolon {}]))
  else
    let word ← upcomingName
    let after ← afterName
    let typed := (word == "type" || word == "typeof") && nameAt after != "from" &&
      (nameAt after != "" || after.head? == some '\x7b' || after.head? == some '*')
    let lead := lead ++ (← onlyIf typed (keyword word))
    if operatorAt (← afterName) == "=" then importEquals lead
    else
      return bundle "import_statement" (lead ++ (← all [importClause, fromClause, importAttribute g,
        semicolon {}]))

/-! Exports -/

def exportClause : Parser Forest :=
  wrapped "export_clause" (all [mark "\x7b", commaList (specifier "export_specifier"), mark "\x7d"])

def optionalSource (g : Grammar) : Parser Forest := do
  if (← upcomingName) == "from" then all [fromClause, importAttribute g] else return []

def exportDefault (g : Grammar) : Parser Forest := do
  let lead ← keyword "default"
  let word ← upcomingName
  let declared : Parser Forest := do
    let marks ← decorators g
    labelled "declaration" (anyDeclaration g marks)
  let value : Parser Forest :=
    ended (labelled "value" (g.read (.expression { lineEnds := true })))
  let declares := ["class", "abstract", "function", "async", "interface", "enum"].contains word ||
    (← comesNext "@")
  return lead ++ (← (if declares then either declared value else value))

def exportStatement (g : Grammar) (marks : Forest) : Parser Forest := do
  let lead := marks ++ (← keyword "export")
  let word ← upcomingName
  let next := (← afterName).head?
  let rest ← (do
    if ← comesNext "*" then
      if nameAt (afterTrivia ((← upcoming).drop 1)) == "as" then
        all [wrapped "namespace_export" (all [mark "*", keyword "as", exportedName]), fromClause,
          importAttribute g, semicolon {}]
      else all [mark "*", fromClause, importAttribute g, semicolon {}]
    else if ← comesNext "\x7b" then all [exportClause, optionalSource g, semicolon {}]
    else if ← comesNext "=" then
      all [mark "=", ended (g.read (.expression { lineEnds := true }))]
    else if word == "type" && next == some '\x7b' then
      all [keyword "type", exportClause, optionalSource g, semicolon {}]
    else if word == "type" && next == some '*' then
      all [keyword "type", mark "*", fromClause, semicolon {}]
    else if word == "as" then
      all [keyword "as", keyword "namespace", name "identifier", semicolon {}]
    else if word == "default" then exportDefault g
    else if word == "import" then labelled "declaration" (importStatement g)
    else
      let inner ← decorators g
      labelled "declaration" (anyDeclaration g inner))
  return bundle "export_statement" (lead ++ rest)

/-! All statements -/

/-- A namespace whose end a line end or a semicolon marks stands as an expression. -/
def namespaceStatement (g : Grammar) : Parser Forest := do
  let found ← internalModule g
  let stop : Parser Forest := do
    let stop ← semicolon {}
    return bundle "expression_statement" (found ++ stop)
  either stop (pure found)

def decorated (g : Grammar) : Parser Forest := do
  let marks ← decorators g
  let word ← upcomingName
  if word == "export" then exportStatement g marks
  else
    either (anyDeclaration g marks) (do
      let value ← classExpression g marks
      return bundle "expression_statement" (value ++ (← semicolon { expression := true })))

def anyStatement (g : Grammar) : Parser Forest := do
  match ← upcoming with
  | '\x7b' :: _ => statementBlock g
  | ';' :: _ => emptyStatement
  | '@' :: _ => decorated g
  | _ =>
    let word ← upcomingName
    let after ← afterName
    if word == "" then expressionStatement g
    else
      match wordStatement g word with
      | some statement => statement
      | none =>
        if word == "export" then exportStatement g []
        else if word == "import" && after.head? != some '(' && after.head? != some '.' then
          importStatement g
        else if after.head? == some ':' then labeledStatement g
        else if word == "namespace" && (← nameFollows) then namespaceStatement g
        else either (anyDeclaration g []) (expressionStatement g)

end HouseStyle.TypeScript
