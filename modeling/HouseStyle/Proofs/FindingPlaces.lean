import HouseStyle.Rule.Preset
import HouseStyle.Validator
import Mathlib.Data.List.Basic

/-! How the rules of the house make their findings: with the tag of the rule, about the file that is checked, and
placed in the text of that file or nowhere.

Lines and columns all come from byte offsets, and an offset beyond the end is taken as the end; so neither
can exceed the size of the text, however the text was searched.
-/

set_option autoImplicit false
namespace HouseStyle

theorem Text.positionOf_le (content : Text.Bytes) (offset : Nat) :
    (Text.positionOf content offset).line ≤ content.length + 1 ∧
      (Text.positionOf content offset).column ≤ content.length + 1 := by
  have before : (content.take offset).length ≤ content.length := List.length_take_le' _ _
  have newlines : (content.take offset).count Text.newline ≤ (content.take offset).length :=
    List.count_le_length
  simp only [Text.positionOf]
  omega

namespace Finding

/-- Neither the line nor the column is beyond the end of the text. -/
def LiesIn (source : String) (f : Finding) : Prop :=
  (∀ n ∈ f.line, n ≤ (Text.bytes source).length + 1) ∧ ∀ n ∈ f.column, n ≤ (Text.bytes source).length + 1

def Unplaced (f : Finding) : Prop := f.line = none ∧ f.column = none

/-- The finding is what is given if the condition holds, and otherwise nothing is. -/
def GivenWhen (condition : Prop) (f : Finding) (given : List Finding) : Prop :=
  (condition ∧ given = [f]) ∨ (¬condition ∧ given = [])

theorem GivenWhen.of_mem {condition : Prop} {f g : Finding} {given : List Finding}
    (rule : f.GivenWhen condition given) (member : g ∈ given) : condition ∧ g = f := by
  rcases rule with ⟨holds, rfl⟩ | ⟨_, rfl⟩
  · exact ⟨holds, List.mem_singleton.mp member⟩
  · cases member

theorem givenWhen_ite {condition : Prop} {test : Bool} (f : Finding) (reads : test = true ↔ condition) :
    f.GivenWhen condition (if test then [f] else []) := by
  rw [GivenWhen, ← reads]
  cases test <;> simp

theorem givenWhen_ite_nil {condition : Prop} {test : Bool} (f : Finding) (reads : test = false ↔ condition) :
    f.GivenWhen condition (if test then [] else [f]) := by
  rw [GivenWhen, ← reads]
  cases test <;> simp

/-- The same is given under two conditions just if they come to the same. -/
theorem GivenWhen.eq_iff {condition condition' : Prop} {f : Finding} {given given' : List Finding}
    (rule : f.GivenWhen condition given) (rule' : f.GivenWhen condition' given') :
    given = given' ↔ (condition ↔ condition') := by
  rcases rule with ⟨holds, rfl⟩ | ⟨fails, rfl⟩
  · rcases rule' with ⟨holds', rfl⟩ | ⟨fails', rfl⟩
    · simp [holds, holds']
    · simp [holds, fails']
  · rcases rule' with ⟨holds', rfl⟩ | ⟨fails', rfl⟩
    · simp [fails, holds']
    · simp [fails, fails']

theorem liesIn_atPosition (f : Finding) (source : String) (offset : Nat) :
    (f.atPosition (Text.positionOf (Text.bytes source) offset)).LiesIn source := by
  obtain ⟨line, column⟩ := Text.positionOf_le (Text.bytes source) offset
  constructor
  · intro n same
    cases same
    exact line
  · intro n same
    cases same
    exact column

theorem Unplaced.liesIn_atLine {f : Finding} (unplaced : f.Unplaced) (source : String) (offset : Nat) :
    (f.atLine (Text.positionOf (Text.bytes source) offset).line).LiesIn source := by
  constructor
  · intro n same
    cases same
    exact (Text.positionOf_le (Text.bytes source) offset).1
  · intro n same
    rw [show (f.atLine _).column = none from unplaced.2] at same
    cases same

end Finding

/-! Tagged findings -/

namespace RuleTag

/-- A finding about the file as a whole. -/
def Plain (tag : RuleTag) (subject : Subject) (f : Finding) : Prop :=
  ∃ severity message, f = tag.finding subject severity message

/-- A finding at an offset of the text: at its line, or at its line and column. -/
inductive Points (tag : RuleTag) (subject : Subject) (source : String) : Finding → Prop where
  | line (severity : Severity) (message : String) (offset : Nat) : Points tag subject source
      ((tag.finding subject severity message).atLine (Text.positionOf (Text.bytes source) offset).line)
  | position (severity : Severity) (message : String) (offset : Nat) : Points tag subject source
      ((tag.finding subject severity message).atPosition (Text.positionOf (Text.bytes source) offset))

variable {tag : RuleTag} {subject : Subject} {f : Finding}

theorem Plain.unplaced (plain : tag.Plain subject f) : f.Unplaced := by
  obtain ⟨severity, message, rfl⟩ := plain
  exact ⟨rfl, rfl⟩

theorem Points.liesIn {source : String} (points : tag.Points subject source f) : f.LiesIn source := by
  cases points with
  | line severity message offset =>
    have plain : tag.Plain subject (tag.finding subject severity message) := ⟨severity, message, rfl⟩
    exact plain.unplaced.liesIn_atLine source offset
  | position => exact Finding.liesIn_atPosition _ _ _

end RuleTag

theorem TypeScript.source_of_parse {dialect : TypeScript.Dialect} {source : String} {tree : Tree}
    (parsed : TypeScript.parse dialect source = some tree) : tree.source = source := by
  simp only [TypeScript.parse] at parsed
  split at parsed
  · cases parsed
  · cases parsed
    rfl

/-- The tree of a source is laid over that source. -/
def SourceParser.KeepsSource (parse : SourceParser) : Prop :=
  ∀ path source tree, parse path source = some tree → tree.source = source

theorem TypeScript.keepsSource_parseFile : SourceParser.KeepsSource TypeScript.parseFile :=
  fun _ _ _ parsed => source_of_parse parsed

/-! Rule by rule -/

theorem FileNaming.check_plain {exemptions : List String} {subject : Subject} {f : Finding}
    (member : f ∈ FileNaming.check exemptions subject) : tag.Plain subject f := by
  simp only [FileNaming.check, List.mem_ite_nil_left, List.mem_append, List.mem_ite_nil_right,
    List.mem_singleton] at member
  rcases member with ⟨_, (⟨_, rfl⟩ | ⟨_, rfl⟩) | ⟨_, rfl⟩⟩
  · exact ⟨_, _, rfl⟩
  · exact ⟨_, _, rfl⟩
  · exact ⟨_, _, rfl⟩

namespace InterfaceNaming

theorem checkName_points {subject : Subject} {source name : String} {offset : Nat} {f : Finding}
    (member : f ∈ checkName subject (Text.positionOf (Text.bytes source) offset) name) :
    tag.Points subject source f := by
  simp only [checkName, List.mem_append, List.mem_ite_nil_left, List.mem_ite_nil_right,
    List.mem_singleton] at member
  rcases member with ⟨_, rfl⟩ | ⟨_, rfl⟩
  · exact .position _ _ _
  · exact .position _ _ _

theorem checkTree_points {subject : Subject} {tree : Tree} {f : Finding} (member : f ∈ checkTree subject tree) :
    tag.Points subject tree.source f := by
  obtain ⟨site, _, found⟩ := List.mem_flatMap.mp member
  simp only [checkNode, List.mem_ite_nil_right] at found
  obtain ⟨_, named⟩ := found
  split at named
  · exact checkName_points named
  · cases named

theorem checkText_points {subject : Subject} {source : String} {f : Finding}
    (member : f ∈ checkText subject source) : tag.Points subject source f := by
  obtain ⟨_, _, found⟩ := List.mem_flatMap.mp member
  exact checkName_points found

theorem check_points {parse : SourceParser} (keeps : parse.KeepsSource) {subject : Subject} {source : String}
    {f : Finding} (member : f ∈ check parse subject source) : tag.Points subject source f := by
  rw [check] at member
  split at member
  case h_1 tree parsed => exact keeps _ _ _ parsed ▸ checkTree_points member
  case h_2 => exact checkText_points member

end InterfaceNaming

namespace ControllerReturn

theorem checkReturn_points {subject : Subject} {tree : Tree} {method : Node} {name : String} {f : Finding}
    (member : f ∈ checkReturn subject tree method name) : tag.Points subject tree.source f := by
  rw [checkReturn] at member
  split at member
  · rw [List.mem_singleton.mp member]
    exact .position _ _ _
  · simp only [List.mem_append, List.mem_ite_nil_left, List.mem_ite_nil_right, List.mem_singleton] at member
    rcases member with ⟨_, rfl⟩ | ⟨_, rfl⟩
    · exact .position _ _ _
    · exact .position _ _ _

theorem checkMethod_points {subject : Subject} {tree : Tree} {site : Site} {f : Finding}
    (member : f ∈ checkMethod subject tree site) : tag.Points subject tree.source f := by
  rw [checkMethod] at member
  split at member
  · exact checkReturn_points (List.mem_ite_nil_right.mp member).2
  · cases member

theorem checkClass_points {subject : Subject} {tree : Tree} {site : Site} {f : Finding}
    (member : f ∈ checkClass subject tree site) : tag.Points subject tree.source f := by
  obtain ⟨_, found⟩ := List.mem_ite_nil_right.mp member
  split at found
  · obtain ⟨_, _, inside⟩ := List.mem_flatMap.mp found
    exact checkMethod_points inside
  · cases found

theorem checkText_points {subject : Subject} {source : String} {f : Finding}
    (member : f ∈ checkText subject source) : tag.Points subject source f := by
  obtain ⟨found, _, rfl⟩ := List.mem_map.mp member
  exact .line _ _ _

theorem check_points {parse : SourceParser} (keeps : parse.KeepsSource) {subject : Subject} {source : String}
    {f : Finding} (member : f ∈ check parse subject source) : tag.Points subject source f := by
  rw [check] at member
  split at member
  case h_1 tree parsed =>
    obtain ⟨_, _, found⟩ := List.mem_flatMap.mp member
    exact keeps _ _ _ parsed ▸ checkClass_points found
  case h_2 => exact checkText_points member

end ControllerReturn

/-! All rules -/

def Rule.tag (rule : Rule) : RuleTag := ⟨rule.name, rule.code⟩

/-- What a rule of the house adds to the findings of a file. -/
inductive Rule.Adds (rule : Rule) (read : Reader) (subject : Subject) (f : Finding) : Prop where
  | plain : rule.tag.Plain subject f → Adds rule read subject f
  | points {source : String} : read subject.location = .ok source → rule.tag.Points subject source f →
      Adds rule read subject f

theorem Verdict.adds_ofSource {read : Reader} {subject : Subject} {check : String → List Finding} {rule : Rule}
    (inside : ∀ source, ∀ f ∈ check source, rule.tag.Points subject source f) :
    ∀ f ∈ Validator.ruleFindings rule subject (Verdict.ofSource read subject check), rule.Adds read subject f := by
  intro f member
  rw [Verdict.ofSource] at member
  split at member
  case h_1 source text => exact .points text (inside source f member)
  case h_2 =>
    -- the warning that stands in for the rule
    rw [List.mem_singleton.mp member]
    exact .plain ⟨_, _, rfl⟩

theorem Rule.preset_adds {config : Config} {rule : Rule} (known : rule ∈ Rule.preset config) (read : Reader)
    (subject : Subject) :
    ∀ f ∈ Validator.ruleFindings rule subject (rule.check read subject), rule.Adds read subject f := by
  simp only [Rule.preset, List.mem_cons, List.not_mem_nil, or_false] at known
  rcases known with rfl | rfl | rfl
  · intro f member
    exact .plain (FileNaming.check_plain member)
  · exact Verdict.adds_ofSource fun _ _ => InterfaceNaming.check_points TypeScript.keepsSource_parseFile
  · intro f member
    simp only [ControllerReturn.rule] at member
    split at member
    · exact Verdict.adds_ofSource (fun _ _ => ControllerReturn.check_points TypeScript.keepsSource_parseFile) f member
    · cases member

/-- The finding is not placed, or it is placed in the text of the file. -/
def Finding.PlacedBy (read : Reader) (location : Path) (f : Finding) : Prop :=
  f.Unplaced ∨ ∃ source, read location = .ok source ∧ f.LiesIn source

theorem Rule.Adds.placed {rule : Rule} {read : Reader} {subject : Subject} {f : Finding}
    (adds : rule.Adds read subject f) : f.PlacedBy read subject.location := by
  cases adds with
  | plain plain => exact .inl plain.unplaced
  | points text points => exact .inr ⟨_, text, points.liesIn⟩

theorem Rule.preset_placed {config : Config} {rule : Rule} (known : rule ∈ Rule.preset config) (read : Reader)
    (subject : Subject) :
    ∀ f ∈ Validator.ruleFindings rule subject (rule.check read subject), f.PlacedBy read subject.location :=
  fun f member => (Rule.preset_adds known read subject f member).placed

end HouseStyle
