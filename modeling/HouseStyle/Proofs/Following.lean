import HouseStyle.Proofs.Disks
import HouseStyle.Proofs.PathJoining

/-! Where paths lead, turn by turn.

A segment that is idle stays where it is but wants a directory there, and every segment that comes after it
wants that too. So idle segments change nothing, unless a path ends in them: then it leads to a directory or
nowhere. Links spoil none of this, since the segments of a target are put in front of those that are left.
-/

set_option autoImplicit false
namespace HouseStyle

namespace Disk

/-! One segment -/

/-- What one segment does: it leads to a location, or it names a link, and then the segments of the target are
followed next. -/
inductive Turn where
  | move (location : Location)
  | jump (location : Location) (target : List Path.Segment)

def turn (disk : Disk) (location : Location) (segment : Path.Segment) : Except IoError Turn :=
  match disk.lookup location with
  | none => .error .notFound
  | some entry =>
    if !entry.isDirectory then .error .notDirectory
    else if Path.isIdle segment then .ok (.move location)
    else if segment == [Path.dot, Path.dot] then .ok (.move location.dropLast)
    else
      match entry.get? segment with
      | none => .error .notFound
      | some (.link target) => .ok (.jump (if target.isAbsolute then [] else location) target.segments)
      | some _ => .ok (.move (location ++ [segment]))

theorem followWith_cons (disk : Disk) (jump : Location → List Path.Segment → Except IoError Location)
    (location : Location) (segment : Path.Segment) (rest : List Path.Segment) :
    disk.followWith jump location (segment :: rest) =
      match disk.turn location segment with
      | .error cause => .error cause
      | .ok (.move next) => disk.followWith jump next rest
      | .ok (.jump next target) => jump next (target ++ rest) := by
  rw [followWith, turn]
  cases disk.lookup location with
  | none => rfl
  | some entry =>
    by_cases open' : entry.isDirectory
    · by_cases idle : Path.isIdle segment
      · simp [open', idle]
      · by_cases up : segment = [Path.dot, Path.dot]
        · simp [open', up, Path.isIdle]
        · cases inside : entry.get? segment with
          | none => simp [open', idle, up, inside]
          | some found => cases found <;> simp [open', idle, up, inside]
    · simp [open']

/-- The segments lead from one location to another, through so many links. -/
inductive Leads (disk : Disk) : Nat → Location → List Path.Segment → Location → Prop where
  | done {location : Location} : Leads disk 0 location [] location
  | move {links : Nat} {location next final : Location} {segment : Path.Segment} {rest : List Path.Segment} :
      disk.turn location segment = .ok (.move next) → Leads disk links next rest final →
      Leads disk links location (segment :: rest) final
  | jump {links : Nat} {location next final : Location} {segment : Path.Segment}
      {target rest : List Path.Segment} : disk.turn location segment = .ok (.jump next target) →
      Leads disk links next (target ++ rest) final → Leads disk (links + 1) location (segment :: rest) final

theorem exists_leads_of_followWith {disk : Disk} {limit : Nat}
    {jump : Location → List Path.Segment → Except IoError Location} {final : Location}
    (jumped : ∀ next parts, jump next parts = .ok final → ∃ links < limit, Leads disk links next parts final)
    {location : Location} {parts : List Path.Segment} (followed : disk.followWith jump location parts = .ok final) :
    ∃ links ≤ limit, Leads disk links location parts final := by
  induction parts generalizing location with
  | nil =>
    cases followed
    exact ⟨0, Nat.zero_le _, .done⟩
  | cons segment rest ih =>
    rw [followWith_cons] at followed
    split at followed
    · cases followed
    · next turned =>
      obtain ⟨links, within, leads⟩ := ih followed
      exact ⟨links, within, .move turned leads⟩
    · next turned =>
      obtain ⟨links, within, leads⟩ := jumped _ _ followed
      exact ⟨links + 1, within, .jump turned leads⟩

theorem follow_of_leads {disk : Disk} {links limit : Nat} {location final : Location} {parts : List Path.Segment}
    (leads : Leads disk links location parts final) (within : links ≤ limit) :
    disk.follow limit location parts = .ok final := by
  induction leads generalizing limit with
  | done => cases limit <;> rfl
  | move turned _ ih =>
    -- a move spends no link, so the limit serves the rest of the way
    have rest := ih within
    cases limit with
    | zero => rwa [follow, followWith_cons, turned]
    | succ limit => rwa [follow, followWith_cons, turned]
  | jump turned _ ih =>
    obtain ⟨limit, rfl⟩ : ∃ fewer, limit = fewer + 1 := Nat.exists_eq_add_one_of_ne_zero (by omega)
    rw [follow, followWith_cons, turned]
    exact ih (Nat.le_of_succ_le_succ within)

theorem follow_eq_ok_iff {disk : Disk} {limit : Nat} {location final : Location} {parts : List Path.Segment} :
    disk.follow limit location parts = .ok final ↔ ∃ links ≤ limit, Leads disk links location parts final := by
  constructor
  · intro followed
    induction limit generalizing location parts with
    | zero => exact exists_leads_of_followWith (fun _ _ tooMany => by cases tooMany) followed
    | succ limit ih =>
      refine exists_leads_of_followWith (fun next parts jumped => ?_) followed
      obtain ⟨links, within, leads⟩ := ih jumped
      exact ⟨links, Nat.lt_succ_of_le within, leads⟩
  · rintro ⟨links, within, leads⟩
    exact follow_of_leads leads within

/-! Runs of segments -/

section
variable {disk : Disk} {links more : Nat} {location middle final : Location} {segment : Path.Segment}
  {front back : List Path.Segment}

theorem Leads.append (leads : Leads disk links location front middle)
    (further : Leads disk more middle back final) : Leads disk (links + more) location (front ++ back) final := by
  induction leads with
  | done => rwa [Nat.zero_add]
  | move turned _ ih => exact .move turned (ih further)
  | jump turned _ ih =>
    rw [Nat.add_right_comm]
    exact .jump turned (List.append_assoc _ _ back ▸ ih further)

theorem Leads.of_append (leads : Leads disk links location (front ++ back) final) :
    ∃ first second middle, links = first + second ∧ Leads disk first location front middle ∧
      Leads disk second middle back final := by
  generalize whole : front ++ back = parts at leads
  induction leads generalizing front with
  | done =>
    obtain ⟨rfl, rfl⟩ := List.append_eq_nil_iff.mp whole
    exact ⟨0, 0, _, rfl, .done, .done⟩
  | @move links location next final segment rest turned leads ih =>
    cases front with
    | nil =>
      obtain rfl : back = segment :: rest := whole
      exact ⟨0, links, location, (Nat.zero_add _).symm, .done, .move turned leads⟩
    | cons first front =>
      obtain ⟨rfl, rfl⟩ := List.cons.inj whole
      obtain ⟨some, others, middle, count, leads, further⟩ := ih rfl
      exact ⟨some, others, middle, count, .move turned leads, further⟩
  | @jump links location next final segment target rest turned leads ih =>
    cases front with
    | nil =>
      obtain rfl : back = segment :: rest := whole
      exact ⟨0, links + 1, location, (Nat.zero_add _).symm, .done, .jump turned leads⟩
    | cons first front =>
      obtain ⟨rfl, rfl⟩ := List.cons.inj whole
      -- the target is followed first, so it belongs to the front
      obtain ⟨some, others, middle, rfl, leads, further⟩ := ih (List.append_assoc target front back)
      exact ⟨some + 1, others, middle, Nat.add_right_comm _ _ _, .jump turned leads, further⟩

/-! Idle segments -/

theorem directory_of_turn {turned : Turn} (turns : disk.turn location segment = .ok turned) :
    ∃ entry, disk.lookup location = some entry ∧ entry.isDirectory = true := by
  rw [turn] at turns
  split at turns
  · cases turns
  · next entry held =>
    refine ⟨entry, held, ?_⟩
    by_contra closed
    rw [Bool.not_eq_true] at closed
    simp [closed] at turns

theorem Leads.directory_of_cons {rest : List Path.Segment} (leads : Leads disk links location (segment :: rest) final) :
    ∃ entry, disk.lookup location = some entry ∧ entry.isDirectory = true := by
  cases leads with
  | move turned => exact directory_of_turn turned
  | jump turned => exact directory_of_turn turned

theorem turn_idle (directory : ∃ entry, disk.lookup location = some entry ∧ entry.isDirectory = true)
    (idle : Path.isIdle segment = true) : disk.turn location segment = .ok (.move location) := by
  obtain ⟨entry, held, isDirectory⟩ := directory
  simp [turn, held, isDirectory, idle]

theorem leads_idle_iff (idle : Path.isIdle segment = true) :
    Leads disk links location (segment :: back) final ↔
      Leads disk links location back final ∧ ∃ entry, disk.lookup location = some entry ∧ entry.isDirectory = true := by
  constructor
  · intro leads
    have directory := leads.directory_of_cons
    have stays := turn_idle directory idle
    refine ⟨?_, directory⟩
    cases leads with
    | move turned rest =>
      rw [stays] at turned
      cases turned
      exact rest
    | jump turned rest =>
      rw [stays] at turned
      cases turned
  · rintro ⟨leads, directory⟩
    exact .move (turn_idle directory idle) leads

/-- Segments lead where their steps lead. -/
theorem Leads.filter {parts : List Path.Segment} (leads : Leads disk links location parts final) :
    Leads disk links location (parts.filter (!Path.isIdle ·)) final := by
  -- from the back, since the target of a link comes before the segments that follow it
  induction parts using List.reverseRecOn generalizing links final with
  | nil => exact leads
  | append_singleton front segment ih =>
    obtain ⟨some, others, middle, rfl, leads, last⟩ := leads.of_append
    rw [List.filter_append]
    refine (ih leads).append ?_
    by_cases idle : Path.isIdle segment
    · rw [List.filter_cons_of_neg (by simp [idle])]
      exact ((leads_idle_iff idle).mp last).1
    · rwa [List.filter_cons_of_pos (by simpa using idle)]

/-- Steps lead where all the segments lead, when these end in a step. -/
theorem Leads.of_filter {parts : List Path.Segment} {last : Path.Segment} (busy : Path.isIdle last = false)
    (leads : Leads disk links location ((parts ++ [last]).filter (!Path.isIdle ·)) final) :
    Leads disk links location (parts ++ [last]) final := by
  induction parts generalizing links location with
  | nil => rwa [List.nil_append, List.filter_cons_of_pos (by simp [busy])] at leads
  | cons segment rest ih =>
    rw [List.cons_append] at leads ⊢
    by_cases idle : Path.isIdle segment
    · rw [List.filter_cons_of_neg (by simp [idle])] at leads
      have further := ih leads
      -- something follows, so there is a directory to stay in
      obtain ⟨first, others, more⟩ := List.exists_cons_of_ne_nil (show rest ++ [last] ≠ [] by simp)
      rw [more] at further ⊢
      exact (leads_idle_iff idle).mpr ⟨further, further.directory_of_cons⟩
    · rw [List.filter_cons_of_pos (by simpa using idle), ← List.singleton_append] at leads
      obtain ⟨some, others, middle, rfl, first, further⟩ := leads.of_append
      exact first.append (ih further)

end

end Disk

/-! Paths -/

namespace Path

/-- The last segment is a step. -/
def EndsInStep (p : Path) : Prop := ∃ front last, p.segments = front ++ [last] ∧ isIdle last = false

theorem component_injective : Function.Injective component := by
  intro first second same
  simp only [component] at same
  split at same <;> split at same
  · simp_all
  · cases same
  · cases same
  · exact Component.name.inj same

theorem filter_segments_eq {p q : Path} (steps : p.steps = q.steps) :
    p.segments.filter (!isIdle ·) = q.segments.filter (!isIdle ·) :=
  component_injective.list_map steps

theorem EndsInStep.bytes_ne {p : Path} (ends : p.EndsInStep) : p.bytes ≠ [] := by
  intro empty
  obtain ⟨front, last, segments, busy⟩ := ends
  have whole : front ++ [last] = [] ++ [[]] := by rw [← segments, Path.segments, empty]; rfl
  obtain rfl : last = [] := List.head_eq_of_cons_eq (List.append_inj' whole rfl).2
  cases busy

theorem endsInStep_of_normal {p : Path} (normal : p.normalize = p) (some : p.steps ≠ []) : p.EndsInStep := by
  obtain ⟨front, last, steps⟩ := (List.eq_nil_or_concat' p.steps).resolve_left some
  have busy : isIdle last.segment = false :=
    isIdle_segment (isStep_of_mem (p := p) (by rw [steps]; exact List.mem_append_right _ List.mem_cons_self))
  cases absolute : p.isAbsolute with
  | true =>
    refine ⟨[] :: front.map Component.segment, last.segment, ?_, busy⟩
    rw [segments_of_normal_root normal absolute some, steps, List.map_append]
    rfl
  | false =>
    refine ⟨front.map Component.segment, last.segment, ?_, busy⟩
    rw [segments_of_normal normal absolute some, steps, List.map_append]
    rfl

theorem EndsInStep.join {q : Path} (ends : q.EndsInStep) (p : Path) : (p.join q).EndsInStep := by
  cases absolute : q.isAbsolute with
  | true => rwa [join_of_absolute p absolute]
  | false =>
    by_cases empty : p.bytes = []
    · rwa [join_of_empty empty absolute]
    · obtain ⟨before, _, _, _, _, joined⟩ := segments_join empty absolute
      obtain ⟨front, last, segments, busy⟩ := ends
      exact ⟨before ++ front, last, by rw [joined, segments, List.append_assoc], busy⟩

end Path

namespace Disk

theorem locate_eq_ok_iff {disk : Disk} {path : Path} {location : Location} :
    disk.locate path = .ok location ↔ path.bytes ≠ [] ∧ ∃ links ≤ linkLimit,
      Leads disk links (if path.isAbsolute then [] else disk.workingDirectory) path.segments location := by
  rw [locate, ← follow_eq_ok_iff]
  by_cases empty : path.bytes = []
  · simp [empty]
  · simp [empty]

/-- A path leads where another one with the same steps leads, if it does not end in an idle segment. -/
theorem locate_of_steps {disk : Disk} {p q : Path} {location : Location} (located : disk.locate p = .ok location)
    (absolute : q.isAbsolute = p.isAbsolute) (steps : q.steps = p.steps) (ends : q.EndsInStep) :
    disk.locate q = .ok location := by
  obtain ⟨_, links, within, leads⟩ := locate_eq_ok_iff.mp located
  refine locate_eq_ok_iff.mpr ⟨ends.bytes_ne, links, within, ?_⟩
  obtain ⟨front, last, segments, busy⟩ := ends
  rw [absolute, segments]
  apply Leads.of_filter busy
  rw [← segments, Path.filter_segments_eq steps]
  exact leads.filter

/-- The path leads to a regular file that is held at the location. -/
def LeadsToFile (disk : Disk) (path : Path) (location : Location) : Prop :=
  disk.locate path = .ok location ∧ ∃ content, disk.lookup location = some (.file content)

end Disk
end HouseStyle
