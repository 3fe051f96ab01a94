import HouseStyle.Path.Basic
import Mathlib.Data.List.Basic

/-! Paths by their steps.

A path is absolute or not, and after its start it takes steps: what the segments that are not idle stand
for. Both together decide its normal form.
-/

set_option autoImplicit false
namespace HouseStyle

namespace Text

variable {α : Type} [BEq α] [LawfulBEq α]

theorem splitAt_append (sep : α) (first second : List α) :
    splitAt (· == sep) (first ++ sep :: second) =
      splitAt (· == sep) first ++ splitAt (· == sep) second := by
  induction first with
  | nil =>
    simp only [List.nil_append, splitAt, beq_self_eq_true, if_true]
    cases pieces : splitAt (· == sep) second with
    | nil => exact absurd pieces (splitAt_ne_nil _ _)
    | cons piece rest => rfl
  | cons c rest ih =>
    simp only [List.cons_append, splitAt, ih]
    cases pieces : splitAt (· == sep) rest with
    | nil => exact absurd pieces (splitAt_ne_nil _ _)
    | cons piece others =>
      simp only [List.cons_append]
      split <;> rfl

theorem splitAt_of_free {sep : α} {text : List α} (free : sep ∉ text) :
    splitAt (· == sep) text = [text] := by
  induction text with
  | nil => rfl
  | cons c rest ih =>
    simp only [List.mem_cons, not_or] at free
    have differs : (c == sep) = false := by simpa using Ne.symm free.1
    simp [splitAt, ih free.2, differs]

theorem free_of_mem_splitAt {sep : α} {text piece : List α}
    (member : piece ∈ splitAt (· == sep) text) : sep ∉ piece := by
  induction text generalizing piece with
  | nil =>
    simp only [splitAt, List.mem_singleton] at member
    simp [member]
  | cons c rest ih =>
    simp only [splitAt] at member
    cases pieces : splitAt (· == sep) rest with
    | nil => exact absurd pieces (splitAt_ne_nil _ _)
    | cons first others =>
      rw [pieces] at ih
      simp only [pieces] at member
      split at member
      · rcases List.mem_cons.mp member with rfl | later
        · simp
        · exact ih later
      · next differs =>
        rcases List.mem_cons.mp member with rfl | later
        · have other : c ≠ sep := by simpa using differs
          simpa [Ne.symm other] using ih List.mem_cons_self
        · exact ih (List.mem_cons_of_mem _ later)

theorem splitAt_joinWith {sep : α} {pieces : List (List α)} (some : pieces ≠ [])
    (free : ∀ piece ∈ pieces, sep ∉ piece) : splitAt (· == sep) (joinWith sep pieces) = pieces := by
  induction pieces with
  | nil => exact absurd rfl some
  | cons piece rest ih =>
    have alone := splitAt_of_free (free piece List.mem_cons_self)
    cases rest with
    | nil => exact alone
    | cons next others =>
      have tail := ih (by simp) fun other member => free other (List.mem_cons_of_mem _ member)
      rw [joinWith, splitAt_append, alone, tail, List.singleton_append]
      simp

end Text

namespace Path

/-! Segments -/

theorem segments_ne_nil (p : Path) : p.segments ≠ [] := Text.splitAt_ne_nil _ _

theorem slash_not_mem {p : Path} {segment : Segment} (member : segment ∈ p.segments) : slash ∉ segment :=
  Text.free_of_mem_splitAt member

theorem ofSegments_segments (p : Path) : ofSegments p.segments = p := by
  have restored : Text.joinWith slash p.segments = p.bytes := Text.joinWith_splitAt slash _
  rw [ofSegments, restored]

theorem segments_ofSegments {parts : List Segment} (some : parts ≠ [])
    (free : ∀ part ∈ parts, slash ∉ part) : (ofSegments parts).segments = parts := by
  rw [segments, ofSegments]
  exact Text.splitAt_joinWith some free

theorem eq_of_segments {p q : Path} (same : p.segments = q.segments) : p = q := by
  rw [← ofSegments_segments p, same, ofSegments_segments]

theorem isAbsolute_iff (p : Path) : p.isAbsolute = true ↔ ∃ rest, rest ≠ [] ∧ p.segments = [] :: rest := by
  rw [isAbsolute, segments]
  cases p.bytes with
  | nil =>
    constructor
    · intro first
      simp at first
    · -- the empty path is one segment, an absolute one at least two
      rintro ⟨rest, some, cut⟩
      simp only [Text.splitAt, List.cons.injEq] at cut
      exact absurd cut.2.symm some
  | cons b rest =>
    simp only [Text.splitAt, List.head?_cons, beq_iff_eq, Option.some.injEq]
    cases pieces : Text.splitAt (· == slash) rest with
    | nil => exact absurd pieces (Text.splitAt_ne_nil _ _)
    | cons piece others =>
      by_cases same : b = slash
      · simp [same]
      · simp [same]

/-! Steps -/

/-- What follows the start of a path. -/
def steps (p : Path) : List Component :=
  (p.segments.filter (!isIdle ·)).map component

theorem components_eq (p : Path) : p.components = p.start ++ p.steps := rfl

/-- A name that a directory can list. -/
def IsName (name : Segment) : Prop :=
  name ≠ [] ∧ name ≠ [dot] ∧ name ≠ [dot, dot] ∧ slash ∉ name

instance (name : Segment) : Decidable (IsName name) :=
  inferInstanceAs (Decidable (_ ∧ _ ∧ _ ∧ _))

def IsStep : Component → Prop
  | .up => True
  | .name segment => IsName segment
  | _ => False

theorem isIdle_eq_false {segment : Segment} : isIdle segment = false ↔ segment ≠ [] ∧ segment ≠ [dot] := by
  simp [isIdle]

theorem isStep_component {segment : Segment} (busy : isIdle segment = false) (free : slash ∉ segment) :
    IsStep (component segment) := by
  rw [isIdle_eq_false] at busy
  rw [component]
  split
  · trivial
  · next other =>
    have notUp : segment ≠ [dot, dot] := by simpa using other
    rw [IsStep]
    exact ⟨busy.1, busy.2, notUp, free⟩

theorem isStep_of_mem {p : Path} {c : Component} (member : c ∈ p.steps) : IsStep c := by
  obtain ⟨segment, kept, rfl⟩ := List.mem_map.mp member
  obtain ⟨inside, busy⟩ := List.mem_filter.mp kept
  exact isStep_component (by simpa using busy) (slash_not_mem inside)

theorem component_segment {c : Component} (step : IsStep c) : component c.segment = c := by
  cases c with
  | root => exact step.elim
  | here => exact step.elim
  | up => rfl
  | name segment =>
    have notUp : (segment == [dot, dot]) = false := by simpa using step.2.2.1
    simp [component, Component.segment, notUp]

theorem isIdle_segment {c : Component} (step : IsStep c) : isIdle c.segment = false := by
  cases c with
  | root => exact step.elim
  | here => exact step.elim
  | up => rfl
  | name segment => exact isIdle_eq_false.mpr ⟨step.1, step.2.1⟩

theorem slash_not_mem_segment {c : Component} (step : IsStep c) : slash ∉ c.segment := by
  cases c with
  | root => exact step.elim
  | here => exact step.elim
  | up => decide
  | name segment => exact step.2.2.2

theorem isIdle_of_mem_segments {cs : List Component} (isStep : ∀ c ∈ cs, IsStep c) :
    ∀ part ∈ cs.map Component.segment, isIdle part = false := by
  intro part member
  obtain ⟨c, inside, rfl⟩ := List.mem_map.mp member
  exact isIdle_segment (isStep c inside)

theorem slash_not_mem_segments {cs : List Component} (isStep : ∀ c ∈ cs, IsStep c) :
    ∀ part ∈ cs.map Component.segment, slash ∉ part := by
  intro part member
  obtain ⟨c, inside, rfl⟩ := List.mem_map.mp member
  exact slash_not_mem_segment (isStep c inside)

theorem steps_ofSegments {parts : List Segment} (free : ∀ part ∈ parts, slash ∉ part) :
    (ofSegments parts).steps = (parts.filter (!isIdle ·)).map component := by
  cases parts with
  | nil => rfl
  | cons part rest => rw [steps, segments_ofSegments (by simp) free]

theorem map_component_segment {cs : List Component} (steps : ∀ c ∈ cs, IsStep c) :
    ((cs.map Component.segment).filter (!isIdle ·)).map component = cs := by
  induction cs with
  | nil => rfl
  | cons c rest ih =>
    have step := steps c List.mem_cons_self
    have tail := ih fun other member => steps other (List.mem_cons_of_mem _ member)
    simp [isIdle_segment step, component_segment step, tail]

/-! Normal forms -/

/-- The root that an absolute path starts from. -/
def anchor (p : Path) : List Component :=
  if p.isAbsolute then [.root] else []

theorem filter_here_steps (p : Path) : p.steps.filter (· != .here) = p.steps := by
  rw [List.filter_eq_self]
  intro c member
  have step := isStep_of_mem member
  cases c with
  | here => exact step.elim
  | _ => rfl

theorem filter_here_components (p : Path) : p.components.filter (· != .here) = p.anchor ++ p.steps := by
  rw [components_eq, List.filter_append, filter_here_steps, anchor, start]
  split
  · rfl
  · split <;> rfl

/-- A path spelled by segments of which the first is not idle has no start. -/
theorem ofSegments_of_busy {parts : List Segment} (free : ∀ part ∈ parts, slash ∉ part)
    (busy : ∀ first ∈ parts.head?, isIdle first = false) :
    (ofSegments parts).isAbsolute = false ∧ (ofSegments parts).start = [] := by
  cases parts with
  | nil => decide
  | cons first rest =>
    have segments := segments_ofSegments (List.cons_ne_nil first rest) free
    have filled := isIdle_eq_false.mp (busy first rfl)
    have relative : (ofSegments (first :: rest)).isAbsolute = false := by
      rw [Bool.eq_false_iff]
      intro absolute
      obtain ⟨others, _, cut⟩ := (isAbsolute_iff _).mp absolute
      rw [segments, List.cons.injEq] at cut
      exact filled.1 cut.1
    exact ⟨relative, by simp [start, relative, segments, filled.2]⟩

theorem segments_ofComponents {parts : List Component} (isStep : ∀ c ∈ parts, IsStep c) (some : parts ≠ []) :
    (ofComponents parts).segments = parts.map Component.segment := by
  have spelled : ofComponents parts = ofSegments (parts.map Component.segment) := by
    cases parts with
    | nil => rfl
    | cons c rest =>
      cases c with
      | root => exact (isStep .root List.mem_cons_self).elim
      | _ => rfl
  rw [spelled, segments_ofSegments (by simpa using some) (slash_not_mem_segments isStep)]

theorem ofComponents_steps {parts : List Component} (isStep : ∀ c ∈ parts, IsStep c) (some : parts ≠ []) :
    (ofComponents parts).isAbsolute = false ∧ (ofComponents parts).start = [] ∧
      (ofComponents parts).steps = parts := by
  have segments := segments_ofComponents isStep some
  have whole : ofComponents parts = ofSegments (parts.map Component.segment) := by
    rw [← segments, ofSegments_segments]
  have busy : ∀ first ∈ (parts.map Component.segment).head?, isIdle first = false :=
    fun first head => isIdle_of_mem_segments isStep first (List.mem_of_head? head)
  obtain ⟨relative, noStart⟩ := ofSegments_of_busy (slash_not_mem_segments isStep) busy
  rw [← whole] at relative noStart
  refine ⟨relative, noStart, ?_⟩
  rw [steps, segments, map_component_segment isStep]

theorem segments_ofComponents_root {parts : List Component} (isStep : ∀ c ∈ parts, IsStep c) (some : parts ≠ []) :
    (ofComponents (.root :: parts)).segments = [] :: parts.map Component.segment := by
  obtain ⟨c, rest, rfl⟩ := List.exists_cons_of_ne_nil some
  have free : ∀ part ∈ ([] :: (c :: rest).map Component.segment), slash ∉ part := by
    intro part member
    rcases List.mem_cons.mp member with rfl | later
    · simp
    · exact slash_not_mem_segments isStep part later
  exact segments_ofSegments (by simp) free

theorem ofComponents_root {parts : List Component} (isStep : ∀ c ∈ parts, IsStep c) :
    (ofComponents (.root :: parts)).isAbsolute = true ∧ (ofComponents (.root :: parts)).steps = parts := by
  cases parts with
  | nil => decide
  | cons c rest =>
    have segments := segments_ofComponents_root isStep (List.cons_ne_nil c rest)
    refine ⟨(isAbsolute_iff _).mpr ⟨_, by simp, segments⟩, ?_⟩
    rw [steps, segments, List.filter_cons_of_neg (by decide), map_component_segment isStep]

theorem normalize_eq (p : Path) :
    p.normalize = if p.anchor ++ p.steps = [] then ⟨[dot]⟩ else ofComponents (p.anchor ++ p.steps) := by
  rw [normalize, filter_here_components]
  cases p.anchor ++ p.steps <;> rfl

@[simp] theorem isAbsolute_normalize (p : Path) : p.normalize.isAbsolute = p.isAbsolute := by
  rw [normalize_eq, anchor]
  cases absolute : p.isAbsolute with
  | true => exact (ofComponents_root fun _ => isStep_of_mem).1
  | false =>
    simp only [Bool.false_eq_true, if_false, List.nil_append]
    split
    · decide
    · next some => exact (ofComponents_steps (fun _ => isStep_of_mem) some).1

@[simp] theorem steps_normalize (p : Path) : p.normalize.steps = p.steps := by
  rw [normalize_eq, anchor]
  cases absolute : p.isAbsolute with
  | true => exact (ofComponents_root fun _ => isStep_of_mem).2
  | false =>
    simp only [Bool.false_eq_true, if_false, List.nil_append]
    split
    · next none => rw [none]; decide
    · next some => exact (ofComponents_steps (fun _ => isStep_of_mem) some).2.2

theorem normalize_eq_iff (p q : Path) :
    p.normalize = q.normalize ↔ p.isAbsolute = q.isAbsolute ∧ p.steps = q.steps := by
  constructor
  · intro same
    constructor
    · rw [← isAbsolute_normalize p, same, isAbsolute_normalize]
    · rw [← steps_normalize p, same, steps_normalize]
  · rintro ⟨absolute, steps⟩
    rw [normalize_eq, normalize_eq, anchor, anchor, absolute, steps]

theorem normalize_normalize (p : Path) : p.normalize.normalize = p.normalize := by
  simp [normalize_eq_iff]

theorem segments_of_normal {p : Path} (normal : p.normalize = p) (relative : p.isAbsolute = false)
    (some : p.steps ≠ []) : p.segments = p.steps.map Component.segment := by
  have spelled : p.normalize = ofComponents p.steps := by
    rw [normalize_eq, anchor]
    simp [relative, some]
  rw [← segments_ofComponents (fun _ => isStep_of_mem) some, ← spelled, normal]

theorem normal_of_segments {p : Path} (relative : p.isAbsolute = false) (some : p.steps ≠ [])
    (spelled : p.segments = p.steps.map Component.segment) : p.normalize = p := by
  apply eq_of_segments
  have still := segments_of_normal p.normalize_normalize ((isAbsolute_normalize p).trans relative)
  rw [steps_normalize] at still
  rw [still some, spelled]

theorem segments_of_normal_root {p : Path} (normal : p.normalize = p) (absolute : p.isAbsolute = true)
    (some : p.steps ≠ []) : p.segments = [] :: p.steps.map Component.segment := by
  have spelled : p.normalize = ofComponents (.root :: p.steps) := by
    rw [normalize_eq, anchor]
    simp [absolute]
  rw [← segments_ofComponents_root (fun _ => isStep_of_mem) some, ← spelled, normal]

/-! Comparison -/

theorem filter_steps (p : Path) : p.components.filter (fun c => c != .root && c != .here) = p.steps := by
  have none : p.start.filter (fun c => c != .root && c != .here) = [] := by
    rw [start]
    split
    · rfl
    · split <;> rfl
  have all : p.steps.filter (fun c => c != .root && c != .here) = p.steps := by
    rw [List.filter_eq_self]
    intro c member
    have step := isStep_of_mem member
    cases c with
    | root => exact step.elim
    | here => exact step.elim
    | _ => rfl
  rw [components_eq, List.filter_append, none, all, List.nil_append]

theorem components_eq_iff (p q : Path) :
    p.components = q.components ↔ p.start = q.start ∧ p.steps = q.steps := by
  constructor
  · intro same
    have steps : p.steps = q.steps := by rw [← filter_steps, same, filter_steps]
    rw [components_eq, components_eq, steps] at same
    exact ⟨List.append_cancel_right same, steps⟩
  · rintro ⟨start, steps⟩
    rw [components_eq, components_eq, start, steps]

theorem same_iff (p q : Path) : p.same q = true ↔ p.start = q.start ∧ p.steps = q.steps := by
  rw [same, beq_iff_eq, components_eq_iff]

theorem same_comm (p q : Path) : p.same q = q.same p := by
  rw [same, same, BEq.comm]

theorem isAbsolute_iff_start (p : Path) : p.isAbsolute = true ↔ p.start = [.root] := by
  rw [start]
  split
  · next absolute => simp [absolute]
  · next relative =>
    split <;> simp [relative]

theorem isAbsolute_eq_of_start {p q : Path} (same : p.start = q.start) : p.isAbsolute = q.isAbsolute := by
  rw [Bool.eq_iff_iff, isAbsolute_iff_start, isAbsolute_iff_start, same]

/-- Normal forms have one spelling as soon as they are equal as paths. -/
theorem same_normalize_iff (p q : Path) : p.normalize.same q.normalize = true ↔ p.normalize = q.normalize := by
  constructor
  · intro same
    obtain ⟨start, steps⟩ := (same_iff _ _).mp same
    have absolute := isAbsolute_eq_of_start start
    rw [isAbsolute_normalize, isAbsolute_normalize] at absolute
    rw [steps_normalize, steps_normalize] at steps
    exact (normalize_eq_iff p q).mpr ⟨absolute, steps⟩
  · intro same
    rw [same, same_iff]
    exact ⟨rfl, rfl⟩

theorem components_eq_nil_iff (p : Path) : p.components = [] ↔ p.bytes = [] := by
  constructor
  · intro none
    rw [components_eq, List.append_eq_nil_iff] at none
    -- a first segment that is neither a dot nor a step is empty, and then nothing may follow it
    obtain ⟨first, rest, cut⟩ := List.exists_cons_of_ne_nil p.segments_ne_nil
    have relative : p.isAbsolute = false := by
      rw [Bool.eq_false_iff, ne_eq, isAbsolute_iff_start, none.1]
      simp
    have noDot : first ≠ [dot] := by
      rintro rfl
      have dotted := none.1
      simp [start, relative, cut] at dotted
    have idle : isIdle first = true := by
      have empty := none.2
      rw [steps, List.map_eq_nil_iff, List.filter_eq_nil_iff, cut] at empty
      simpa using empty first List.mem_cons_self
    have blank : first = [] := by
      by_contra filled
      exact absurd (isIdle_eq_false.mpr ⟨filled, noDot⟩) (by simp [idle])
    have last : rest = [] := by
      by_contra more
      have absolute := (isAbsolute_iff p).mpr ⟨rest, more, by rw [cut, blank]⟩
      rw [relative] at absolute
      exact Bool.noConfusion absolute
    rw [← ofSegments_segments p, cut, blank, last]
    rfl
  · intro empty
    have same : p = ⟨[]⟩ := congrArg Path.mk empty
    rw [same]
    decide

theorem start_steps_of_empty {p : Path} (empty : p.bytes = []) : p.start = [] ∧ p.steps = [] := by
  have none := (components_eq_nil_iff p).mpr empty
  rwa [components_eq, List.append_eq_nil_iff] at none

end Path
end HouseStyle
