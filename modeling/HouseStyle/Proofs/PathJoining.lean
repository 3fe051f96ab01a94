import HouseStyle.Proofs.Paths

/-! Joining and stripping paths.

A relative path joined to another adds its steps to it; stripping a base drops the steps of the base. An
empty base is a case of its own: nothing is joined to it, and stripping it leaves even a leading dot.
-/

set_option autoImplicit false
namespace HouseStyle

namespace Path

/-! Joining -/

theorem join_of_absolute (p : Path) {q : Path} (absolute : q.isAbsolute = true) : p.join q = q := by
  rw [join, if_pos absolute]

theorem join_of_empty {p q : Path} (empty : p.bytes = []) (relative : q.isAbsolute = false) :
    p.join q = q := by
  simp [join, relative, empty]

/-- Segments of a joined path: those of the left side up to idle ones at its end, then those of the right. -/
theorem segments_join {p q : Path} (some : p.bytes ≠ []) (relative : q.isAbsolute = false) :
    ∃ front tail : List Segment, front ≠ [] ∧ (∀ segment ∈ tail, isIdle segment = true) ∧
      p.segments = front ++ tail ∧ (p.join q).segments = front ++ q.segments := by
  by_cases ends : p.bytes.getLast? = Option.some slash
  · -- the slash at the end makes one more segment, which goes when something follows
    obtain ⟨front, spelled⟩ := List.getLast?_eq_some_iff.mp ends
    refine ⟨Text.splitAt (· == slash) front, [[]], Text.splitAt_ne_nil _ _, by simp [isIdle], ?_, ?_⟩
    · rw [segments, spelled, Text.splitAt_append]
      rfl
    · rw [join, if_neg (by simp [relative]), if_pos (by simp [ends])]
      rw [segments, spelled, List.append_assoc, List.singleton_append,
        Text.splitAt_append]
      rfl
  · refine ⟨p.segments, [], p.segments_ne_nil, by simp, by simp, ?_⟩
    rw [join, if_neg (by simp [relative]), if_neg (by simp [ends, some])]
    exact Text.splitAt_append slash _ _

theorem filter_idle {parts : List Segment} (idle : ∀ part ∈ parts, isIdle part = true) :
    parts.filter (!isIdle ·) = [] := by
  rw [List.filter_eq_nil_iff]
  intro part member
  simp [idle part member]

theorem steps_join {p q : Path} (relative : q.isAbsolute = false) :
    (p.join q).steps = p.steps ++ q.steps := by
  by_cases empty : p.bytes = []
  · rw [join_of_empty empty relative, (start_steps_of_empty empty).2, List.nil_append]
  · obtain ⟨front, tail, _, idle, left, joined⟩ := segments_join empty relative
    rw [steps, steps, steps, joined, left]
    simp [filter_idle idle]

theorem steps_join_front (p : Path) {q : Path} (relative : q.isAbsolute = false) :
    p.steps <+: (p.join q).steps := by
  rw [steps_join relative]
  exact List.prefix_append _ _

theorem isAbsolute_join {p q : Path} (some : p.bytes ≠ []) (relative : q.isAbsolute = false) :
    (p.join q).isAbsolute = p.isAbsolute := by
  obtain ⟨c, rest, spelled⟩ := List.exists_cons_of_ne_nil some
  rw [join, if_neg (by simp [relative])]
  split <;> simp [isAbsolute, spelled]

theorem start_join {p q : Path} (some : p.bytes ≠ []) (relative : q.isAbsolute = false) :
    (p.join q).start = p.start := by
  obtain ⟨front, tail, filled, _, left, joined⟩ := segments_join some relative
  obtain ⟨first, rest, rfl⟩ := List.exists_cons_of_ne_nil filled
  simp [start, isAbsolute_join some relative, left, joined]

/-! Stripping -/

theorem filter_dropIdle (parts : List Segment) :
    (dropIdle parts).filter (!isIdle ·) = parts.filter (!isIdle ·) := by
  induction parts with
  | nil => rfl
  | cons part rest ih =>
    rw [dropIdle, List.dropWhile_cons]
    split
    · next idle => simpa [dropIdle, idle] using ih
    · rfl

theorem filter_dropIdleEnd (parts : List Segment) :
    (dropIdleEnd parts).filter (!isIdle ·) = parts.filter (!isIdle ·) := by
  rw [dropIdleEnd, List.filter_reverse, filter_dropIdle, List.filter_reverse, List.reverse_reverse]

theorem filter_dropBusy (count : Nat) (parts : List Segment) :
    (dropBusy count parts).filter (!isIdle ·) = (parts.filter (!isIdle ·)).drop count := by
  fun_induction dropBusy count parts with
  | case1 => rfl
  | case2 => rfl
  | case3 count part rest idle ih => rw [ih, List.filter_cons_of_neg (by simp [idle])]
  | case4 count part rest busy ih =>
    rw [ih, List.filter_cons_of_pos (by simpa using busy), List.drop_succ_cons]

theorem dropIdleEnd_isPrefix (parts : List Segment) : dropIdleEnd parts <+: parts := by
  rw [dropIdleEnd, ← List.reverse_suffix, List.reverse_reverse]
  exact List.dropWhile_suffix _

theorem dropBusy_sublist (count : Nat) (parts : List Segment) : (dropBusy count parts).Sublist parts := by
  fun_induction dropBusy count parts with
  | case1 => exact List.Sublist.refl _
  | case2 => exact List.Sublist.refl _
  | case3 count part rest idle ih => exact ih.cons _
  | case4 count part rest busy ih => exact ih.cons _

theorem head?_dropIdleEnd {first : Segment} {rest : List Segment} (some : dropIdleEnd (first :: rest) ≠ []) :
    (dropIdleEnd (first :: rest)).head? = Option.some first := by
  obtain ⟨dropped, whole⟩ := dropIdleEnd_isPrefix (first :: rest)
  obtain ⟨head, others, trimmed⟩ := List.exists_cons_of_ne_nil some
  rw [trimmed, List.cons_append, List.cons.injEq] at whole
  rw [trimmed, List.head?_cons, whole.1]

theorem head?_dropIdle {parts : List Segment} {first : Segment} (head : (dropIdle parts).head? = some first) :
    isIdle first = false := by
  have kept := List.head?_dropWhile_not isIdle parts
  rw [dropIdle] at head
  rw [head] at kept
  simpa using kept

/-- The start is what the first component says, unless that is a step. -/
theorem start_eq_head (p : Path) :
    p.start = (p.components.head?.filter fun c => c == .root || c == .here).toList := by
  have startOf : p.start = [.root] ∨ p.start = [.here] ∨ p.start = [] := by
    rw [start]
    split
    · exact Or.inl rfl
    · split
      · exact Or.inr (Or.inl rfl)
      · exact Or.inr (Or.inr rfl)
  rw [components_eq]
  rcases startOf with same | same | same
  · rw [same]; rfl
  · rw [same]; rfl
  · rw [same, List.nil_append]
    cases steps : p.steps with
    | nil => rfl
    | cons c rest =>
      have step : IsStep c := isStep_of_mem (p := p) (by simp [steps])
      cases c with
      | root => exact step.elim
      | here => exact step.elim
      | _ => rfl

/-- A path lies below a base with components when both start alike and the base's steps come first. -/
theorem isPrefixOf_iff {base : Path} (some : base.bytes ≠ []) (p : Path) :
    base.components.isPrefixOf p.components = true ↔ base.start = p.start ∧ base.steps <+: p.steps := by
  rw [List.isPrefixOf_iff_prefix]
  constructor
  · intro front
    have steps : base.steps <+: p.steps := by
      rw [← filter_steps, ← filter_steps p]
      exact front.filter _
    refine ⟨?_, steps⟩
    obtain ⟨rest, whole⟩ := front
    obtain ⟨first, others, components⟩ :=
      List.exists_cons_of_ne_nil (mt (components_eq_nil_iff base).mp some)
    rw [start_eq_head base, start_eq_head p, ← whole, components]
    rfl
  · rintro ⟨start, rest, steps⟩
    exact ⟨rest, by rw [components_eq, components_eq, start, ← steps, List.append_assoc]⟩

theorem below?_eq_none {base p : Path} (some : base.bytes ≠ [])
    (apart : ¬ (base.start = p.start ∧ base.steps <+: p.steps)) : below? base p = none := by
  rw [below?, if_neg (mt (isPrefixOf_iff some p).mp apart)]

theorem below?_of_inside {base p : Path} (some : base.bytes ≠ [])
    (start : base.start = p.start) (steps : base.steps <+: p.steps) :
    below? base p =
      Option.some (ofSegments (dropIdleEnd (dropIdle (dropBusy base.steps.length p.segments)))) := by
  have filled : ¬ base.components.isEmpty = true := by
    simpa using mt (components_eq_nil_iff base).mp some
  rw [below?, if_pos ((isPrefixOf_iff some p).mpr ⟨start, steps⟩), if_neg filled]
  simp only [filter_steps]

theorem below?_eq_some {base p : Path} (some : base.bytes ≠ [])
    (start : base.start = p.start) (steps : base.steps <+: p.steps) :
    ∃ rest, below? base p = Option.some rest ∧ rest.isAbsolute = false ∧ rest.start = [] ∧
      rest.steps = p.steps.drop base.steps.length := by
  let kept := dropIdleEnd (dropIdle (dropBusy base.steps.length p.segments))
  have free : ∀ part ∈ kept, slash ∉ part := by
    intro part member
    have inside := (dropIdleEnd_isPrefix _).subset member
    exact slash_not_mem ((dropBusy_sublist _ _).subset ((List.dropWhile_sublist _).subset inside))
  -- trimming the end leaves the first segment alone, and that is not idle after trimming the front
  have busy : ∀ first ∈ kept.head?, isIdle first = false := by
    intro first head
    cases trimmed : dropIdle (dropBusy base.steps.length p.segments) with
    | nil =>
      simp only [kept, trimmed] at head
      exact absurd head (by simp [dropIdleEnd, dropIdle])
    | cons other others =>
      have more : dropIdleEnd (other :: others) ≠ [] := by
        intro none
        simp [kept, trimmed, none] at head
      have same : first = other := by
        simp only [kept, trimmed, head?_dropIdleEnd more] at head
        exact (Option.some.inj head).symm
      exact head?_dropIdle (by rw [trimmed, List.head?_cons, same])
  obtain ⟨relative, noStart⟩ := ofSegments_of_busy free busy
  refine ⟨ofSegments kept, below?_of_inside some start steps, relative, noStart, ?_⟩
  rw [steps_ofSegments free, filter_dropIdleEnd, filter_dropIdle, filter_dropBusy, List.map_drop]
  rfl

theorem relativeTo_of_apart {base p : Path} (some : base.bytes ≠ [])
    (apart : ¬ (base.start = p.start ∧ base.steps <+: p.steps)) : relativeTo base p = p := by
  rw [relativeTo, below?_eq_none some apart, Option.getD_none]

theorem relativeTo_of_inside {base p : Path} (some : base.bytes ≠ [])
    (start : base.start = p.start) (steps : base.steps <+: p.steps) :
    (relativeTo base p).isAbsolute = false ∧ (relativeTo base p).start = [] ∧
      (relativeTo base p).steps = p.steps.drop base.steps.length := by
  obtain ⟨rest, below, left⟩ := below?_eq_some some start steps
  rw [relativeTo, below, Option.getD_some]
  exact left

theorem relativeTo_empty_of_absolute {base p : Path} (empty : base.bytes = []) (absolute : p.isAbsolute = true) :
    relativeTo base p = p := by
  have none := (components_eq_nil_iff base).mpr empty
  simp [relativeTo, below?, none, absolute]

theorem relativeTo_empty {base p : Path} (empty : base.bytes = []) (relative : p.isAbsolute = false) :
    relativeTo base p = ofSegments (dropIdleEnd p.segments) := by
  have none := (components_eq_nil_iff base).mpr empty
  simp [relativeTo, below?, none, relative]

theorem slash_not_mem_dropIdleEnd {p : Path} : ∀ part ∈ dropIdleEnd p.segments, slash ∉ part :=
  fun _ member => slash_not_mem ((dropIdleEnd_isPrefix _).subset member)

theorem steps_dropIdleEnd (p : Path) : (ofSegments (dropIdleEnd p.segments)).steps = p.steps := by
  rw [steps_ofSegments slash_not_mem_dropIdleEnd, filter_dropIdleEnd]
  rfl

theorem isAbsolute_dropIdleEnd {p : Path} (relative : p.isAbsolute = false) :
    (ofSegments (dropIdleEnd p.segments)).isAbsolute = false := by
  by_cases gone : dropIdleEnd p.segments = []
  · rw [gone]
    decide
  · rw [Bool.eq_false_iff]
    intro absolute
    obtain ⟨others, more, blank⟩ := (isAbsolute_iff _).mp absolute
    rw [segments_ofSegments gone slash_not_mem_dropIdleEnd] at blank
    obtain ⟨dropped, whole⟩ := dropIdleEnd_isPrefix p.segments
    rw [blank, List.cons_append] at whole
    have started := (isAbsolute_iff p).mpr ⟨others ++ dropped, by simp [more], whole.symm⟩
    rw [relative] at started
    exact Bool.noConfusion started

theorem start_dropIdleEnd {p : Path} (relative : p.isAbsolute = false) (some : p.steps ≠ []) :
    (ofSegments (dropIdleEnd p.segments)).start = p.start := by
  have kept : dropIdleEnd p.segments ≠ [] := by
    intro gone
    have steps := steps_dropIdleEnd p
    rw [gone] at steps
    exact some steps.symm
  have head : (dropIdleEnd p.segments).head? = p.segments.head? := by
    obtain ⟨first, rest, cut⟩ := List.exists_cons_of_ne_nil p.segments_ne_nil
    rw [cut] at kept ⊢
    exact head?_dropIdleEnd kept
  simp only [start, isAbsolute_dropIdleEnd relative, relative,
    segments_ofSegments kept slash_not_mem_dropIdleEnd, head]

theorem isAbsolute_relativeTo {base p : Path} (relative : p.isAbsolute = false) :
    (relativeTo base p).isAbsolute = false := by
  by_cases empty : base.bytes = []
  · rw [relativeTo_empty empty relative]
    exact isAbsolute_dropIdleEnd relative
  · by_cases inside : base.start = p.start ∧ base.steps <+: p.steps
    · exact (relativeTo_of_inside empty inside.1 inside.2).1
    · rw [relativeTo_of_apart empty inside, relative]

/-! Absolute paths -/

theorem relativeTo_of_outside {base p : Path} (absolute : p.isAbsolute = true)
    (outside : ¬ (base.isAbsolute = true ∧ base.steps <+: p.steps)) : relativeTo base p = p := by
  by_cases empty : base.bytes = []
  · exact relativeTo_empty_of_absolute empty absolute
  · apply relativeTo_of_apart empty
    rintro ⟨start, steps⟩
    exact outside ⟨(isAbsolute_eq_of_start start).trans absolute, steps⟩

theorem bytes_ne_of_absolute {p : Path} (absolute : p.isAbsolute = true) : p.bytes ≠ [] := by
  intro empty
  simp [isAbsolute, empty] at absolute

theorem start_of_absolute {p q : Path} (first : p.isAbsolute = true) (second : q.isAbsolute = true) :
    p.start = q.start := by
  rw [(isAbsolute_iff_start p).mp first, (isAbsolute_iff_start q).mp second]

theorem relativeTo_of_absolute {base p : Path} (absolute : p.isAbsolute = true)
    (rooted : base.isAbsolute = true) (steps : base.steps <+: p.steps) :
    (relativeTo base p).isAbsolute = false ∧ (relativeTo base p).start = [] ∧
      (relativeTo base p).steps = p.steps.drop base.steps.length := by
  exact relativeTo_of_inside (bytes_ne_of_absolute rooted) (start_of_absolute rooted absolute) steps

/-! Stripping what was joined -/

theorem relativeTo_join {base q : Path} (some : base.bytes ≠ []) (relative : q.isAbsolute = false) :
    (relativeTo base (base.join q)).isAbsolute = false ∧ (relativeTo base (base.join q)).start = [] ∧
      (relativeTo base (base.join q)).steps = q.steps := by
  have left := relativeTo_of_inside some (start_join some relative).symm (steps_join_front base relative)
  rwa [steps_join relative, List.drop_left] at left

theorem steps_relativeTo_join {base q : Path} (relative : q.isAbsolute = false) :
    (relativeTo base (base.join q)).steps = q.steps := by
  by_cases empty : base.bytes = []
  · rw [join_of_empty empty relative, relativeTo_empty empty relative, steps_dropIdleEnd]
  · exact (relativeTo_join empty relative).2.2

theorem dropIdle_dropBusy_append (front back : List Segment) :
    dropIdle (dropBusy (front.filter (!isIdle ·)).length (front ++ back)) = dropIdle back := by
  induction front with
  | nil => simp [dropBusy]
  | cons part rest ih =>
    by_cases idle : isIdle part = true
    · -- an idle segment is skipped while steps are counted, and trimmed once they are used up
      rw [List.filter_cons_of_neg (by simp [idle])]
      cases count : (rest.filter (!isIdle ·)).length with
      | zero =>
        rw [count, dropBusy] at ih
        rw [dropBusy, List.cons_append, dropIdle, List.dropWhile_cons_of_pos idle]
        exact ih
      | succ further =>
        rw [count] at ih
        simp only [List.cons_append, dropBusy, idle, if_true]
        exact ih
    · rw [List.filter_cons_of_pos (by simpa using idle), List.length_cons, List.cons_append, dropBusy]
      simp only [idle]
      exact ih

theorem trim_of_busy {parts : List Segment} (busy : ∀ part ∈ parts, isIdle part = false) :
    dropIdle parts = parts ∧ dropIdleEnd parts = parts := by
  have kept : ∀ others : List Segment, (∀ part ∈ others, isIdle part = false) → dropIdle others = others := by
    intro others still
    cases others with
    | nil => rfl
    | cons first rest =>
      rw [dropIdle, List.dropWhile_cons_of_neg (by simp [still first List.mem_cons_self])]
  refine ⟨kept parts busy, ?_⟩
  rw [dropIdleEnd, kept parts.reverse (by simpa using busy), List.reverse_reverse]

theorem trim_segments {parts : List Component} (isStep : ∀ c ∈ parts, IsStep c) :
    dropIdle (parts.map Component.segment) = parts.map Component.segment ∧
      dropIdleEnd (parts.map Component.segment) = parts.map Component.segment := by
  exact trim_of_busy (isIdle_of_mem_segments isStep)

/-- A normal path joined to a base and stripped again comes back letter by letter. -/
theorem relativeTo_join_normal {base q : Path} (normal : q.normalize = q) (relative : q.isAbsolute = false)
    (filled : q.steps ≠ []) : relativeTo base (base.join q) = q := by
  have segments := segments_of_normal normal relative filled
  obtain ⟨noFront, noEnd⟩ := trim_segments fun _ => isStep_of_mem (p := q)
  rw [← segments] at noFront noEnd
  by_cases empty : base.bytes = []
  · rw [join_of_empty empty relative, relativeTo_empty empty relative, noEnd, ofSegments_segments]
  · obtain ⟨front, tail, _, idle, left, joined⟩ := segments_join empty relative
    have count : base.steps.length = (front.filter (!isIdle ·)).length := by
      rw [steps, left, List.length_map, List.filter_append, filter_idle idle, List.append_nil]
    have start := (start_join empty relative).symm
    rw [relativeTo, below?_of_inside empty start (steps_join_front base relative), Option.getD_some, joined, count]
    rw [dropIdle_dropBusy_append, noFront, noEnd, ofSegments_segments]

/-- What is left of a normal path below a base is normal. -/
theorem normal_relativeTo {base p : Path} (normal : p.normalize = p) (absolute : p.isAbsolute = true)
    (rooted : base.isAbsolute = true) (steps : base.steps <+: p.steps)
    (below : p.steps.drop base.steps.length ≠ []) : (relativeTo base p).normalize = relativeTo base p := by
  obtain ⟨relative, _, left⟩ := relativeTo_of_absolute absolute rooted steps
  obtain ⟨back, whole⟩ := steps
  rw [← whole, List.drop_left] at below left
  have isStep : ∀ c ∈ back, IsStep c :=
    fun c member => isStep_of_mem (p := p) (whole ▸ List.mem_append_right _ member)
  have busy := isIdle_of_mem_segments fun _ => isStep_of_mem (p := base)
  -- the segments up to the base are as many as its steps, but for the empty one before the first slash
  have count : base.steps.length = (([] :: base.steps.map Component.segment).filter (!isIdle ·)).length := by
    rw [List.filter_cons_of_neg (by decide), List.filter_eq_self.mpr (by simpa using busy), List.length_map]
  have segments : p.segments = ([] :: base.steps.map Component.segment) ++ back.map Component.segment := by
    rw [segments_of_normal_root normal absolute (by simp [← whole, below]), ← whole, List.map_append,
      List.cons_append]
  obtain ⟨noFront, noEnd⟩ := trim_segments isStep
  have spelled : relativeTo base p = ofSegments (back.map Component.segment) := by
    rw [relativeTo, below?_of_inside (bytes_ne_of_absolute rooted) (start_of_absolute rooted absolute) ⟨back, whole⟩]
    rw [Option.getD_some, segments, count, dropIdle_dropBusy_append, noFront, noEnd]
  apply normal_of_segments relative (by rwa [left])
  rw [left, spelled]
  exact segments_ofSegments (by simpa using below) (slash_not_mem_segments isStep)

/-! Names below a path -/

theorem ofName {name : Segment} (isName : IsName name) :
    (Path.mk name).isAbsolute = false ∧ (Path.mk name).start = [] ∧
      (Path.mk name).steps = [.name name] := by
  have whole : Path.mk name = ofComponents [.name name] := by
    simp [ofComponents, ofSegments, Component.segment, Text.joinWith]
  have isStep : ∀ c ∈ [Component.name name], IsStep c := by simpa [IsStep] using isName
  rw [whole]
  exact ofComponents_steps isStep (by simp)

/-- The path of what the names lead to below a directory. -/
def descend (p : Path) (names : List Segment) : Path :=
  names.foldl (fun path name => path.join ⟨name⟩) p

theorem descend_cons (p : Path) (name : Segment) (names : List Segment) :
    p.descend (name :: names) = (p.join ⟨name⟩).descend names := rfl

theorem join_name (p : Path) {name : Segment} (isName : IsName name) :
    (p.join ⟨name⟩).isAbsolute = p.isAbsolute ∧ (p.join ⟨name⟩).start = p.start ∧
      (p.join ⟨name⟩).steps = p.steps ++ [.name name] := by
  obtain ⟨relative, noStart, one⟩ := ofName isName
  have start : (p.join ⟨name⟩).start = p.start := by
    by_cases empty : p.bytes = []
    · rw [join_of_empty empty relative, noStart, (start_steps_of_empty empty).1]
    · exact start_join empty relative
  exact ⟨isAbsolute_eq_of_start start, start, by rw [steps_join relative, one]⟩

theorem components_descend (p : Path) {names : List Segment} (areNames : ∀ name ∈ names, IsName name) :
    (p.descend names).start = p.start ∧ (p.descend names).steps = p.steps ++ names.map .name := by
  induction names generalizing p with
  | nil => simp [descend]
  | cons name rest ih =>
    obtain ⟨_, start, steps⟩ := join_name p (areNames name List.mem_cons_self)
    have below := ih (p.join ⟨name⟩) fun other member => areNames other (List.mem_cons_of_mem _ member)
    rw [start, steps] at below
    exact ⟨below.1, below.2.trans (by simp)⟩

/-- Below a relative directory of a base, stripping the base leaves the names after a fixed beginning. -/
theorem components_relativeTo_descend {base directory : Path} (relative : directory.isAbsolute = false)
    {names : List Segment} (areNames : ∀ name ∈ names, IsName name) (some : names ≠ []) :
    (relativeTo base ((base.join directory).descend names)).components =
      (if base.bytes = [] then directory.components else directory.steps) ++ names.map .name := by
  obtain ⟨start, steps⟩ := components_descend (base.join directory) areNames
  by_cases empty : base.bytes = []
  · rw [join_of_empty empty relative] at start steps ⊢
    have still := (isAbsolute_eq_of_start start).trans relative
    have filled : (directory.descend names).steps ≠ [] := by simp [steps, some]
    rw [relativeTo_empty empty still, components_eq, start_dropIdleEnd still filled, steps_dropIdleEnd]
    rw [start, steps, if_pos empty, components_eq, List.append_assoc]
  · rw [steps_join relative] at steps
    rw [start_join empty relative] at start
    have inside : base.steps <+: ((base.join directory).descend names).steps := by
      rw [steps, List.append_assoc]
      exact List.prefix_append _ _
    obtain ⟨_, noStart, left⟩ := relativeTo_of_inside empty start.symm inside
    rw [components_eq, noStart, left, steps, List.append_assoc, List.drop_left, if_neg empty, List.nil_append]

end Path
end HouseStyle
