import HouseStyle.Text.Utf8
import HouseStyle.Tree.Node
import HouseStyle.TypeScript.Scan

/-!
Parsers over the rest of a source text. A parser yields the nodes it has read, comments among them, from
left to right. It may decline, and another is tried from the same place, or it may find the text malformed,
which ends the whole reading.
-/

set_option autoImplicit false
namespace HouseStyle.TypeScript

structure Cursor where
  rest : Chars
  offset : Nat
  size : Nat

/-- More than the number of characters left. -/
def Cursor.room (cursor : Cursor) : Nat := cursor.size - cursor.offset + 1

inductive Failure where
  | declined
  | malformed
  deriving DecidableEq, Repr

abbrev Parser (α : Type) := StateT Cursor (Except Failure) α

abbrev Forest := List Node

def decline {α : Type} : Parser α := throw .declined

def either {α : Type} (first second : Parser α) : Parser α := fun cursor =>
  match first cursor with
  | .error .declined => second cursor
  | answer => answer

/-- From here on there is no other way to read the text. -/
def committed {α : Type} (p : Parser α) : Parser α := fun cursor =>
  match p cursor with
  | .error _ => .error .malformed
  | answer => answer

def tentative {α : Type} (p : Parser α) : Parser α := fun cursor =>
  match p cursor with
  | .error _ => .error .declined
  | answer => answer

def optionally (p : Parser Forest) : Parser Forest := either p (pure [])

def onlyIf (condition : Bool) (p : Parser Forest) : Parser Forest := if condition then p else pure []

def all (ps : List (Parser Forest)) : Parser Forest := do
  let forests ← ps.mapM id
  return forests.flatten

/-- At most `fuel` times `p`, until it declines or stands still. -/
def repeated (p : Parser Forest) : Nat → Parser Forest
  | 0 => pure []
  | fuel + 1 => fun cursor =>
    match p cursor with
    | .error .declined => .ok ([], cursor)
    | .error .malformed => .error .malformed
    | .ok (forest, after) =>
      if after.offset ≤ cursor.offset then .ok (forest, after)
      else
        match repeated p fuel after with
        | .ok (more, last) => .ok (forest ++ more, last)
        | .error failure => .error failure

def many (p : Parser Forest) : Parser Forest := do
  repeated p (← get).room

/-! Nodes -/

def Node.withRole (role : String) : Node → Node
  | .mk info children => .mk { info with role := some role } children

def Node.withKind (kind : String) : Node → Node
  | .mk info children => .mk { info with kind := kind } children

/-- The nodes of the forest that are no comments play the role. -/
def inRole (role : String) (forest : Forest) : Forest :=
  forest.map fun n => if n.info.extra then n else Node.withRole role n

def labelled (role : String) (p : Parser Forest) : Parser Forest := do
  return inRole role (← p)

/-- The forest as one node; comments before its first part stay outside. -/
def bundle (kind : String) (forest : Forest) : Forest :=
  let (outside, inside) := forest.span (·.info.extra)
  match inside with
  | [] => outside
  | first :: _ =>
    let stop := (inside.getLast?.map (·.info.stop)).getD first.info.stop
    outside ++ [.mk ⟨0, kind, none, true, false, first.info.start, stop⟩ inside]

def wrapped (kind : String) (p : Parser Forest) : Parser Forest := do
  return bundle kind (← p)

/-! Lexemes -/

def leaf (kind : String) (named extra : Bool) (lexeme : Lexeme) : Parser Node := do
  let cursor ← get
  let start := cursor.offset
  let stop := start + Text.byteLength lexeme.1
  set { cursor with rest := lexeme.2, offset := stop }
  return .mk ⟨0, kind, none, named, extra, start, stop⟩ []

def skipSpaces : Parser Unit :=
  modify fun cursor =>
    { cursor with
      rest := cursor.rest.dropWhile isSpace
      offset := cursor.offset + Text.byteLength (cursor.rest.takeWhile isSpace) }

def comment : Parser Forest := do
  skipSpaces
  match comment? (← get).rest with
  | some lexeme => return [← leaf "comment" true true lexeme]
  | none => decline

def trivia : Parser Forest := do
  let comments ← many comment
  skipSpaces
  return comments

def token (kind : String) (named : Bool) (scan : Chars → Option Lexeme) : Parser Forest := do
  let comments ← trivia
  match scan (← get).rest with
  | some lexeme => return comments ++ [← leaf kind named false lexeme]
  | none => decline

def mark (text : String) : Parser Forest :=
  token text false (exactly? text.toList)

def word? (text : String) (rest : Chars) : Option Lexeme :=
  (name? rest).filter fun lexeme => String.ofList lexeme.1 == text

def keyword (text : String) : Parser Forest :=
  token text false (word? text)

def name (kind : String) : Parser Forest :=
  token kind true name?

def namedWord (kind text : String) : Parser Forest :=
  token kind true (word? text)

/-! Looking ahead -/

def upcoming : Parser Chars := do
  return afterTrivia (← get).rest

def upcomingName : Parser String := do
  return nameAt (← upcoming)

def upcomingOperator : Parser String := do
  return operatorAt (← upcoming)

def comesNext (text : String) : Parser Bool := do
  return text.toList.isPrefixOf (← upcoming)

def afterName : Parser Chars := do
  match name? (← upcoming) with
  | some (_, rest) => return afterTrivia rest
  | none => return []

def afterBrackets : Parser Chars := do
  let cursor ← get
  let closed (closer : Char) (rest : Chars) : Chars :=
    match afterCloser? (2 * cursor.room) closer rest with
    | some after => afterTrivia after
    | none => []
  match afterTrivia cursor.rest with
  | '(' :: rest => return closed ')' rest
  | '[' :: rest => return closed ']' rest
  | '\x7b' :: rest => return closed '\x7d' rest
  | _ => return []

def onNewLine : Parser Bool := do
  return breaksLine (← get).rest

def nameEndsLine : Parser Bool := do
  match name? (← upcoming) with
  | some (_, rest) => return breaksLine rest
  | none => return false

/-! Ends of lines -/

/-- The end of a line taken for a semicolon, and the comments before it. -/
def lineEndAfter (context : LineContext) : Nat → Parser Forest
  | 0 => decline
  | fuel + 1 => do
    if lineMayEnd context (← get).rest then return []
    else
      let found ← comment
      return found ++ (← lineEndAfter context fuel)

def lineEnd (context : LineContext) : Parser Forest := do
  lineEndAfter context (← get).room

def semicolon (context : LineContext) : Parser Forest :=
  either (lineEnd context) (mark ";")

/-! Lists -/

def commaList (item : Parser Forest) : Parser Forest :=
  optionally (all [item, many (all [mark ",", item]), optionally (mark ",")])

def commaList1 (item : Parser Forest) : Parser Forest :=
  all [item, many (all [mark ",", item])]

def holeyList (item : Parser Forest) : Parser Forest :=
  all [optionally item, many (all [mark ",", optionally item])]

/-! The grammar's open ends -/

/-- How an expression stands: whether `in` belongs to the loop around it, whether a line end may end it, and
whether it is the middle of a choice, which a colon ends. -/
structure Mode where
  loopHeader : Bool := false
  lineEnds : Bool := false
  choice : Bool := false

/-- What rules call upon that is tied together only when all of them are there: an operand is an expression
without operators, and `calls` tells whether it may be called. -/
inductive Goal where
  | statement
  | expression (mode : Mode)
  | operand (calls : Bool)
  | type (lineEnds : Bool)

structure Grammar where
  read : Goal → Parser Forest
  /-- Angle brackets open markup, not a type assertion. -/
  markup : Bool

namespace Grammar

def statement (g : Grammar) : Parser Forest := g.read .statement

def expression (g : Grammar) : Parser Forest := g.read (.expression {})

def expressions (g : Grammar) (mode : Mode := {}) : Parser Forest := do
  let first ← g.read (.expression mode)
  let more ← many (all [mark ",", g.read (.expression mode)])
  return if more.isEmpty then first else bundle "sequence_expression" (first ++ more)

def type (g : Grammar) : Parser Forest := g.read (.type false)

end Grammar
end HouseStyle.TypeScript
