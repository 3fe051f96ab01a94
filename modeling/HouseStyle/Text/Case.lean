import HouseStyle.Text.CaseTable
import HouseStyle.Text.Split
import HouseStyle.Text.Word

/-!
Case mapping of characters and texts. One character may map to several. Lowering a text gives a sigma
at the end of a word its final form; PascalCase capitalises the words between `-` and `_` one by one
and knows no such rule.
-/

set_option autoImplicit false
namespace HouseStyle.Text

def CaseRun.covers (run : CaseRun) (n : Nat) : Bool :=
  run.first ≤ n && n ≤ run.last && (n - run.first) % run.step == 0

def mapCase (runs : List CaseRun) (expansions : List (Nat × List Nat)) (c : Char) : List Char :=
  match expansions.lookup c.toNat with
  | some image => image.map Char.ofNat
  | none =>
    match runs.find? (·.covers c.toNat) with
    | some run => [Char.ofNat (run.image + (c.toNat - run.first))]
    | none => [c]

def upper (c : Char) : List Char :=
  mapCase upperRuns upperExpansions c

def lower (c : Char) : List Char :=
  mapCase lowerRuns lowerExpansions c

def isCased (c : Char) : Bool :=
  inRanges casedRanges c

def isCaseIgnorable (c : Char) : Bool :=
  inRanges caseIgnorableRanges c

def nextIsCased (text : List Char) : Bool :=
  match text.dropWhile isCaseIgnorable with
  | [] => false
  | c :: _ => isCased c

/-- A sigma ends a word when a cased character comes before it and none after it. -/
def lowerSigma (before after : List Char) : Char :=
  if nextIsCased before && !nextIsCased after then 'ς' else 'σ'

/-- Lowers `after`, given the characters before it from nearest to farthest. -/
def lowerAfter : List Char → List Char → List Char
  | _, [] => []
  | before, c :: after =>
    (if c = 'Σ' then [lowerSigma before after] else lower c) ++ lowerAfter (c :: before) after

def lowercase (text : String) : String :=
  String.ofList (lowerAfter [] text.toList)

def capitalize : List Char → List Char
  | [] => []
  | c :: rest => upper c ++ rest.flatMap lower

def isWordSeparator (c : Char) : Bool :=
  c == '-' || c == '_'

def pascalCase (name : String) : String :=
  String.ofList ((splitAt isWordSeparator name.toList).flatMap capitalize)

end HouseStyle.Text
