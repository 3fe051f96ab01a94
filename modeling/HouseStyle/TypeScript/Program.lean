import HouseStyle.Path.Basic
import HouseStyle.TypeScript.Declarations

/-!
Whole programs. The rules of the grammar are tied together here; the depth to which they may call each
other is bounded by the size of the text, since a rule that calls another without reading anything does so
only from a statement to an expression to a type.
-/

set_option autoImplicit false
namespace HouseStyle.TypeScript

inductive Dialect where
  | plain
  | markup
  deriving DecidableEq, Repr

def Dialect.ofPath (path : Path) : Dialect :=
  match path.extension?.bind Text.decode? with
  | some extension => if extension.map Text.asciiLower == "tsx" then .markup else .plain
  | none => .plain

/-- The rules of the grammar, calling each other to a depth. -/
def read (markup : Bool) : Nat → Goal → Parser Forest
  | 0, _ => throw .malformed
  | depth + 1, goal =>
    let g : Grammar := ⟨read markup depth, markup⟩
    match goal with
    | .statement => anyStatement g
    | .expression mode => anyExpression g mode
    | .operand calls => operand g {} calls
    | .type lineEnds => anyType g lineEnds

def interpreterLine : Parser Forest := do
  match (← get).rest with
  | '#' :: '!' :: rest =>
    return [← leaf "hash_bang_line" true false
      ('#' :: '!' :: rest.takeWhile (· != '\n'), rest.dropWhile (· != '\n'))]
  | _ => return []

def program (g : Grammar) : Parser Forest := do
  let first ← interpreterLine
  let found ← statements g
  let last ← trivia
  if (← get).rest.isEmpty then return first ++ found ++ last else decline

def parse (dialect : Dialect) (source : String) : Option Tree :=
  let size := Text.byteLength source.toList
  let markup := dialect == .markup
  let depth := 3 * size + 16
  match program ⟨read markup depth, markup⟩ ⟨source.toList, 0, size⟩ with
  | .error _ => none
  | .ok (children, _) =>
    let start := (children.head?.map (·.start)).getD size
    let root : Node := .mk ⟨0, "program", none, true, false, start, size⟩ children
    some ⟨source, (root.number 0).1⟩

def parseFile (path : Path) (source : String) : Option Tree := parse (.ofPath path) source

end HouseStyle.TypeScript
