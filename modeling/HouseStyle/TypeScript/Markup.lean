import HouseStyle.TypeScript.Members

/-! Markup in expressions: elements, their attributes and the text between their tags. -/

set_option autoImplicit false
namespace HouseStyle.TypeScript

def tagName : Parser Forest := do
  let first ← token "identifier" true markupName?
  if ← comesNext ":" then
    return bundle "jsx_namespace_name" (first ++ (← all [mark ":", token "identifier" true markupName?]))
  else memberChain (← get).room first

def embedded (g : Grammar) : Parser Forest :=
  wrapped "jsx_expression" (all [mark "\x7b", do
    if ← comesNext "..." then spreadElement g
    else if ← comesNext "\x7d" then return []
    else g.expressions,
    mark "\x7d"])

def attributeName : Parser Forest := do
  let first ← token "property_identifier" true markupName?
  if ← comesNext ":" then
    return bundle "jsx_namespace_name" (first ++ (← all [mark ":", token "identifier" true markupName?]))
  else return first

/-- Attributes, where `element` reads markup given as a value. -/
def tagAttribute (g : Grammar) (element : Parser Forest) : Parser Forest := do
  match (← upcoming).head? with
  | some '\x7b' => embedded g
  | some '>' => decline
  | some '/' => decline
  | _ =>
    wrapped "jsx_attribute" (all [attributeName, do
      if ← comesNext "=" then
        all [mark "=", do
          match (← upcoming).head? with
          | some '\x7b' => embedded g
          | some '<' => element
          | _ => token "string" true plainString?]
      else return []])

def tagText : Parser Forest := do
  match markupText (← get).rest with
  | ([], _) => decline
  | lexeme => return [← leaf "jsx_text" true false lexeme]

def elementWithin (g : Grammar) : Nat → Parser Forest
  | 0 => decline
  | depth + 1 => do
    let element := elementWithin g depth
    let openingEnd : Parser Forest := do
      /- The text of the element begins right after this mark. -/
      let comments ← trivia
      match exactly? ['>'] (← get).rest with
      | some lexeme => return comments ++ [← leaf ">" false false lexeme]
      | none => decline
    let lead ← mark "<"
    let head ← (do
      if ← comesNext ">" then return []
      else
        let tag ← labelled "name" tagName
        let types ← (do
          if ← comesNext "<" then labelled "type_arguments" (typeArguments g) else return [])
        let attributes ← labelled "attribute" (many (tagAttribute g element))
        return tag ++ types ++ attributes)
    if ← comesNext "/" then
      return bundle "jsx_self_closing_element" (lead ++ head ++ (← all [mark "/", mark ">"]))
    else
      let opening := bundle "jsx_opening_element" (lead ++ head ++ (← openingEnd))
      let content ← many (either tagText (do
        match (← get).rest with
        | '\x7b' :: _ => embedded g
        | '<' :: rest => if (afterTrivia rest).head? == some '/' then decline else element
        | _ => decline))
      let closing ← wrapped "jsx_closing_element" (all [mark "<", mark "/", do
        if ← comesNext ">" then return [] else labelled "name" tagName, mark ">"])
      return bundle "jsx_element" (inRole "open_tag" opening ++ content ++ inRole "close_tag" closing)

def element (g : Grammar) : Parser Forest := do
  elementWithin g (← get).room

end HouseStyle.TypeScript
