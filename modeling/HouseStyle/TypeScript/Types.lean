import HouseStyle.TypeScript.Signatures

/-! Types: names, literals, objects, tuples and functions, and the operators that combine them. -/

set_option autoImplicit false
namespace HouseStyle.TypeScript

def predefinedTypes : List String :=
  ["any", "number", "boolean", "string", "symbol", "void", "unknown", "never", "object"]

/-! Members of object types -/

def modifiesProperty : Parser Bool := do
  return beginsPropertyName (← afterName) && !(← nameEndsLine)

def memberModifier (words : List String) : Parser Forest := do
  let word ← upcomingName
  if words.contains word && (← modifiesProperty) then
    if accessWords.contains word then wrapped "accessibility_modifier" (keyword word)
    else if word == "override" then namedWord "override_modifier" "override"
    else keyword word
  else decline

def indexSignature (g : Grammar) (lineEnds : Bool) : Parser Forest := do
  let lead ← all [
    do
      let text ← upcoming
      if text.head? == some '-' then labelled "sign" (mark "-")
      else if text.head? == some '+' then labelled "sign" (mark "+")
      else return [],
    do if (← upcomingName) == "readonly" then keyword "readonly" else return [],
    mark "["]
  let next ← afterName
  let key ← (if next.head? == some ':' then
      all [labelled "name" (name "identifier"), mark ":", labelled "index_type" g.type]
    else if nameAt next == "in" then
      wrapped "mapped_type_clause" (all [labelled "name" (name "type_identifier"), keyword "in",
        labelled "type" g.type, do
          if (← upcomingName) == "as" then all [keyword "as", labelled "alias" g.type] else return []])
    else decline)
  let close ← mark "]"
  let text ← upcoming
  let kind :=
    if "-?:".toList.isPrefixOf text then "omitting_type_annotation"
    else if "+?:".toList.isPrefixOf text then "adding_type_annotation"
    else if "?:".toList.isPrefixOf text then "opting_type_annotation"
    else "type_annotation"
  let colon :=
    if kind == "omitting_type_annotation" then "-?:"
    else if kind == "adding_type_annotation" then "+?:"
    else if kind == "opting_type_annotation" then "?:"
    else ":"
  let type ← labelled "type" (wrapped kind (all [mark colon, g.read (.type lineEnds)]))
  return bundle "index_signature" (lead ++ key ++ close ++ type)

/-- A bracket opens an index signature: a name and a colon or `in` follow it. -/
def indexAhead : Parser Bool := do
  let text ← upcoming
  let text := match text with
    | '-' :: rest => afterTrivia rest
    | '+' :: rest => afterTrivia rest
    | _ => text
  let text := match name? text with
    | some (word, rest) => if word == "readonly".toList then afterTrivia rest else text
    | none => text
  match text with
  | '[' :: rest =>
    match name? (afterTrivia rest) with
    | some (_, after) => return (afterTrivia after).head? == some ':' || nameAt (afterTrivia after) == "in"
    | none => return false
  | _ => return false

def constructAhead : Parser Bool := do
  let word ← upcomingName
  let after ← afterName
  if word == "new" then return after.head? == some '(' || after.head? == some '<'
  else return word == "abstract" && nameAt after == "new"

def typeMember (g : Grammar) : Parser Forest := do
  let text ← upcoming
  if text.head? == some '(' || text.head? == some '<' then
    wrapped "call_signature" (callSignature g true)
  else if ← constructAhead then
    wrapped "construct_signature" (all [
      optionally (keyword "abstract"), keyword "new", optionalTypeParameters g,
      labelled "parameters" (formalParameters g), optionalTypeClause g true])
  else if ← indexAhead then indexSignature g true
  else
    let lead ← all [
      many (memberModifier (accessWords ++ ["static", "override", "readonly"])),
      optionally (memberModifier ["async"]), optionally (memberModifier ["get", "set"]),
      optionally (mark "*"), labelled "name" (propertyName g), optionally questionMark]
    let next := (← upcoming).head?
    if next == some '(' || next == some '<' then
      return bundle "method_signature" (lead ++ (← callSignature g true))
    else return bundle "property_signature" (lead ++ (← optionalTypeClause g true))

def typeMembers (g : Grammar) : Parser Forest :=
  all [optionally (either (mark ",") (mark ";")),
    many (do
      if ← comesNext "\x7d" then decline
      else all [typeMember g, do
        if ← comesNext "," then mark ","
        else committed (semicolon {})])]

def objectType (g : Grammar) (kind : String) : Parser Forest :=
  wrapped kind (all [mark "\x7b", typeMembers g, mark "\x7d"])

/-! Tuples and templates -/

def tupleMember (g : Grammar) : Parser Forest := do
  if ← comesNext "..." then
    match name? (afterTrivia ((← upcoming).drop 3)) with
    | some (_, rest) =>
      if (afterTrivia rest).head? == some ':' then
        wrapped "required_parameter" (all [
          labelled "name" (wrapped "rest_pattern" (all [mark "...", name "identifier"])),
          labelled "type" (typeClause g)])
      else wrapped "rest_type" (all [mark "...", g.type])
    | none => wrapped "rest_type" (all [mark "...", g.type])
  else
    let after ← afterName
    if after.head? == some ':' then
      wrapped "required_parameter" (all [labelled "name" (name "identifier"),
        labelled "type" (typeClause g)])
    else if after.head? == some '?' && (afterTrivia (after.drop 1)).head? == some ':' then
      wrapped "optional_parameter" (all [labelled "name" (name "identifier"), mark "?",
        labelled "type" (typeClause g)])
    else
      let type ← g.type
      if ← comesNext "?" then return bundle "optional_type" (type ++ (← mark "?")) else return type

def tupleType (g : Grammar) : Parser Forest :=
  wrapped "tuple_type" (all [mark "[", commaList (tupleMember g), mark "]"])

def templateOf (kind substitution : String) (inner : Parser Forest) : Parser Forest := do
  let text : Parser Forest := do
    match templateText (← get).rest with
    | ([], _) => decline
    | lexeme => return [← leaf "string_fragment" true false lexeme]
  let hole : Parser Forest := do
    match exactly? "$\x7b".toList (← get).rest with
    | some lexeme =>
      let lead ← leaf "$\x7b" false false lexeme
      return bundle substitution (lead :: (← all [inner, mark "\x7d"]))
    | none => decline
  let close : Parser Forest := do
    match exactly? ['`'] (← get).rest with
    | some lexeme => return [← leaf "`" false false lexeme]
    | none => decline
  wrapped kind (all [mark "`", many (either text hole), close])

/-! References -/

def typeReference (g : Grammar) : Parser Forest := do
  let first ← name "type_identifier"
  let rec qualify : Nat → Forest → Parser Forest
    | 0, found => pure found
    | fuel + 1, found => do
      if (← upcomingOperator) == "." then
        let dot ← mark "."
        let last ← labelled "name" (name "type_identifier")
        /- What was the whole name is now the module. -/
        let owner := found.map fun n =>
          if n.info.extra then n
          else if n.kind == "type_identifier" then Node.withKind "identifier" n
          else
            match n with
            | .mk info children =>
              .mk { info with kind := "nested_identifier" } (children.map fun m =>
                if m.info.role == some "name" then
                  Node.withRole "property" (Node.withKind "property_identifier" m)
                else if m.info.role == some "module" then
                  Node.withRole "object"
                    (if m.kind == "nested_identifier" then Node.withKind "member_expression" m else m)
                else m)
        qualify fuel (bundle "nested_type_identifier" (inRole "module" owner ++ dot ++ last))
      else return found
  let reference ← qualify (← get).room first
  if (← upcomingOperator) == "<" then
    return bundle "generic_type" (inRole "name" reference ++
      (← labelled "type_arguments" (typeArguments g)))
  else return reference

def typeQuery (g : Grammar) : Parser Forest := do
  let start ← keyword "typeof"
  let word ← upcomingName
  let first ← (if word == "import" then
      do
        let call ← all [labelled "function" (namedWord "import" "import"), labelled "arguments" (arguments g)]
        return bundle "call_expression" call
    else if word == "this" then namedWord "this" "this"
    else name "identifier")
  let rec extend : Nat → Forest → Parser Forest
    | 0, found => pure found
    | fuel + 1, found => do
      let op ← upcomingOperator
      if op == "." || op == "?." then
        let dot ← mark op
        let property ← labelled "property" (either privateName (name "property_identifier"))
        extend fuel (bundle "member_expression" (inRole "object" found ++ dot ++ property))
      else return found
  let target ← extend (← get).room first
  if (← upcomingOperator) == "<" && !(← onNewLine) then
    let target := bundle "instantiation_expression" (inRole "function" target ++
      (← labelled "type_arguments" (typeArguments g)))
    return bundle "type_query" (start ++ target)
  else return bundle "type_query" (start ++ target)

def importType (g : Grammar) : Parser Forest := do
  let call ← all [labelled "function" (namedWord "import" "import"), labelled "arguments" (arguments g)]
  let reference ← memberChain (← get).room (bundle "call_expression" call)
  if (← upcomingOperator) == "<" then
    return bundle "generic_type" (inRole "name" reference ++
      (← labelled "type_arguments" (typeArguments g)))
  else return reference

/-! Operators -/

def typeSuffix (g : Grammar) (lineEnds : Bool) : Nat → Forest → Parser Forest
  | 0, type => pure type
  | fuel + 1, type => do
    if (← comesNext "[") && !(lineEnds && (← onNewLine)) then
      let lead ← mark "["
      if ← comesNext "]" then
        typeSuffix g lineEnds fuel (bundle "array_type" (type ++ lead ++ (← mark "]")))
      else typeSuffix g lineEnds fuel (bundle "lookup_type" (type ++ lead ++ (← all [g.type, mark "]"])))
    else return type

/-- A parenthesis opens the parameters of a function type: an arrow follows its match. -/
def functionTypeAhead : Parser Bool := do
  match ← upcoming with
  | '(' :: _ => return "=>".toList.isPrefixOf (← afterBrackets)
  | '<' :: _ => return true
  | _ => return false

def functionResult (g : Grammar) (lineEnds : Bool) : Parser Forest := do
  if ← assertionAhead then assertion g lineEnds
  else if ← predicateAhead then typePredicate g lineEnds
  else g.read (.type lineEnds)

def functionType (g : Grammar) (lineEnds : Bool) : Parser Forest :=
  wrapped "function_type" (all [optionalTypeParameters g, labelled "parameters" (formalParameters g),
    mark "=>", labelled "return_type" (functionResult g lineEnds)])

def constructorType (g : Grammar) (lineEnds : Bool) : Parser Forest :=
  wrapped "constructor_type" (all [optionally (keyword "abstract"), keyword "new",
    optionalTypeParameters g, labelled "parameters" (formalParameters g), mark "=>",
    labelled "type" (g.read (.type lineEnds))])

/-- A type without operators around it, to a depth of prefixed words. -/
def operandType (g : Grammar) (lineEnds : Bool) : Nat → Parser Forest
  | 0 => decline
  | depth + 1 => do
    let literal (p : Parser Forest) : Parser Forest := wrapped "literal_type" p
    let suffixed (p : Parser Forest) : Parser Forest := do
      let type ← p
      typeSuffix g lineEnds (← get).room type
    if ← functionTypeAhead then functionType g lineEnds
    else
      let text ← upcoming
      match text with
      | '(' :: _ => suffixed (wrapped "parenthesized_type" (all [mark "(", g.type, mark ")"]))
      | '[' :: _ => suffixed (tupleType g)
      | '\x7b' :: _ => suffixed (objectType g "object_type")
      | '"' :: _ => suffixed (literal stringLiteral)
      | '\'' :: _ => suffixed (literal stringLiteral)
      | '`' :: _ => suffixed (templateOf "template_literal_type" "template_type" g.type)
      | '-' :: _ => suffixed (literal (wrapped "unary_expression" (all [labelled "operator" (mark "-"),
          labelled "argument" numberLiteral])))
      | '+' :: _ => suffixed (literal (wrapped "unary_expression" (all [labelled "operator" (mark "+"),
          labelled "argument" numberLiteral])))
      | '*' :: _ => suffixed (token "existential_type" true (exactly? ['*']))
      | '?' :: _ => wrapped "flow_maybe_type" (all [mark "?", operandType g lineEnds depth])
      | c :: _ =>
        if isDigit c || c == '.' then suffixed (literal numberLiteral)
        else
          let word ← upcomingName
          if word == "readonly" then wrapped "readonly_type" (all [keyword word, g.read (.type lineEnds)])
          else if word == "keyof" then
            wrapped "index_type_query" (all [keyword word, operandType g lineEnds depth])
          else if word == "typeof" then suffixed (typeQuery g)
          else if word == "new" || (word == "abstract" && nameAt (← afterName) == "new") then
            constructorType g lineEnds
          else if word == "infer" then
            wrapped "infer_type" (all [keyword word, name "type_identifier",
              optionally (tentative (do
                let bound ← all [keyword "extends", operandType g lineEnds depth]
                if ← comesNext "?" then decline else return bound))])
          else if word == "unique" && nameAt (← afterName) == "symbol" then
            suffixed (wrapped "predefined_type" (all [keyword "unique", keyword "symbol"]))
          else if predefinedTypes.contains word then suffixed (wrapped "predefined_type" (keyword word))
          else if word == "this" then suffixed (namedWord "this_type" "this")
          else if ["true", "false", "null", "undefined"].contains word then
            suffixed (literal (namedWord word word))
          else if word == "import" then suffixed (importType g)
          else if word == "const" then suffixed (keyword "const")
          else suffixed (typeReference g)
      | [] => decline

def combinedType (kind operator : String) (operand : Parser Forest) : Parser Forest := do
  let alone : Parser Bool := do return (← upcomingOperator) == operator
  let first ← (do
    if ← alone then wrapped kind (all [mark operator, operand]) else operand)
  let rec more : Nat → Forest → Parser Forest
    | 0, found => pure found
    | fuel + 1, found => do
      if ← alone then more fuel (bundle kind (found ++ (← all [mark operator, operand])))
      else return found
  more (← get).room first

def unionType (g : Grammar) (lineEnds : Bool) : Parser Forest := do
  let room := (← get).room
  combinedType "union_type" "|" (combinedType "intersection_type" "&" (operandType g lineEnds room))

def anyType (g : Grammar) (lineEnds : Bool) : Parser Forest := do
  let left ← unionType g lineEnds
  if (← upcomingName) == "extends" && !(lineEnds && (← onNewLine)) then
    return bundle "conditional_type" (inRole "left" left ++ (← all [
      keyword "extends", labelled "right" (unionType g lineEnds), mark "?",
      labelled "consequence" g.type, mark ":", labelled "alternative" (g.read (.type lineEnds))]))
  else return left

end HouseStyle.TypeScript
