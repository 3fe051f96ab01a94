import HouseStyle.Tree.Walk
import Mathlib.Data.Fin.VecNotation
import Mathlib.Data.Fintype.Basic
import Mathlib.Data.List.Dedup
import Mathlib.Data.Set.Finite.Basic
import Mathlib.Logic.Relation

/-! A walk as a loop that remembers the ids it has seen, and as a recursive visit.

The loop marks a node when it takes it from the stack, not when it puts it there. So the stack may hold nodes
whose ids are seen by the time they come up, and may be longer than the graph is large. At every turn the rest
of the walk is the recursive visit of the nodes on the stack, and a child of a visited node is still on the
stack or has an id that was seen.
-/

set_option autoImplicit false
namespace HouseStyle.Walk

section
variable {α ι : Type} (children : α → List α) (id : α → ι)

def Reaches : α → α → Prop := Relation.ReflTransGen fun parent child => child ∈ children parent

/-- Every id that a walk from the root can meet, each once. -/
structure Indexes (root : α) (ids : List ι) : Prop where
  apart : ids.Nodup
  covers : ∀ node, Reaches children root node → id node ∈ ids

theorem exists_indexes [DecidableEq ι] {root : α} (finite : {node | Reaches children root node}.Finite) :
    ∃ ids, Indexes children id root ids := by
  refine ⟨(finite.toFinset.toList.map id).dedup, List.nodup_dedup _, fun node reached => ?_⟩
  rw [List.mem_dedup]
  exact List.mem_map_of_mem (by simpa using reached)

/-! The recursive visit -/

/-- Visiting nodes from left to right, from some seen ids to others. A node whose id was seen adds nothing;
another one is marked, comes first, and then its children are visited, with all ids seen on the way handed on. -/
inductive Visits : List ι → List α → List α → List ι → Prop where
  | nil {seen : List ι} : Visits seen [] [] seen
  | again {seen later : List ι} {node : α} {rest out : List α} : id node ∈ seen →
      Visits seen rest out later → Visits seen (node :: rest) out later
  | first {seen between later : List ι} {node : α} {rest below out : List α} : id node ∉ seen →
      Visits (id node :: seen) (children node) below between → Visits between rest out later →
      Visits seen (node :: rest) (node :: below ++ out) later

/-- Nodes and all that is below them, each node before its children, without regard to ids. -/
inductive Preorder : List α → List α → Prop where
  | nil : Preorder [] []
  | cons {node : α} {rest below out : List α} : Preorder (children node) below → Preorder rest out →
      Preorder (node :: rest) (node :: below ++ out)

variable {children id}

theorem Visits.unique {seen later later' : List ι} {nodes out out' : List α}
    (visits : Visits children id seen nodes out later) (other : Visits children id seen nodes out' later') :
    out' = out ∧ later' = later := by
  induction visits generalizing out' later' with
  | nil =>
    cases other
    exact ⟨rfl, rfl⟩
  | again marked _ ih =>
    cases other with
    | again _ rest => exact ih rest
    | first fresh => exact absurd marked fresh
  | first fresh _ _ belowIH restIH =>
    cases other with
    | again marked => exact absurd marked fresh
    | first _ below rest =>
      obtain ⟨rfl, rfl⟩ := belowIH below
      obtain ⟨rfl, rfl⟩ := restIH rest
      exact ⟨rfl, rfl⟩

/-- A visit of two runs of nodes is one visit and then the other. -/
theorem Visits.of_append {seen later : List ι} {first second out : List α}
    (visits : Visits children id seen (first ++ second) out later) : ∃ between front back,
      Visits children id seen first front between ∧ Visits children id between second back later ∧
        out = front ++ back := by
  induction first generalizing seen out with
  | nil => exact ⟨seen, [], out, .nil, visits, rfl⟩
  | cons node rest ih =>
    cases visits with
    | again marked visits =>
      obtain ⟨between, front, back, atFront, atBack, rfl⟩ := ih visits
      exact ⟨between, front, back, .again marked atFront, atBack, rfl⟩
    | @first _ _ _ _ _ below _ fresh inside visits =>
      obtain ⟨between, front, back, atFront, atBack, rfl⟩ := ih visits
      exact ⟨between, node :: below ++ front, back, .first fresh inside atFront, atBack,
        (List.append_assoc (node :: below) front back).symm⟩

theorem Preorder.visits {nodes out : List α} (listing : Preorder children nodes out) {seen : List ι}
    (apart : (out.map id).Nodup) (fresh : ∀ node ∈ out, id node ∉ seen) :
    Visits children id seen nodes out ((out.map id).reverse ++ seen) := by
  induction listing generalizing seen with
  | nil => exact .nil
  | @cons node rest below out _ _ belowIH restIH =>
    simp only [List.cons_append, List.map_cons, List.map_append, List.nodup_cons, List.mem_append, not_or,
      List.nodup_append'] at apart
    obtain ⟨⟨notBelow, notRest⟩, belowApart, restApart, disjoint⟩ := apart
    -- each part of the listing comes upon ids that none of the parts before it has
    have freshBelow : ∀ n ∈ below, id n ∉ id node :: seen := by
      intro n member
      rw [List.mem_cons, not_or]
      exact ⟨fun same => notBelow (same ▸ List.mem_map_of_mem member), fresh n (by simp [member])⟩
    have freshAfter : ∀ n ∈ out, id n ∉ (below.map id).reverse ++ id node :: seen := by
      intro n member
      have here : id n ∈ out.map id := List.mem_map_of_mem member
      simp only [List.mem_append, List.mem_reverse, List.mem_cons, not_or]
      exact ⟨fun old => disjoint old here, fun same => notRest (same ▸ here), fresh n (by simp [member])⟩
    have whole := Visits.first (fresh node (by simp)) (belowIH belowApart freshBelow) (restIH restApart freshAfter)
    simpa using whole

/-! Unvisited ids and seen ids -/

/-- Of the ids below the stack, those not visited are those not seen. -/
def Unseen (children : α → List α) (id : α → ι) (unvisited seen : List ι) (stack : List α) : Prop :=
  ∀ top ∈ stack, ∀ node, Reaches children top node → (id node ∈ unvisited ↔ id node ∉ seen)

theorem Unseen.top {unvisited seen : List ι} {node : α} {stack : List α}
    (unseen : Unseen children id unvisited seen (node :: stack)) : id node ∈ unvisited ↔ id node ∉ seen :=
  unseen node List.mem_cons_self node .refl

theorem Unseen.pass {unvisited seen : List ι} {node : α} {stack : List α}
    (unseen : Unseen children id unvisited seen (node :: stack)) : Unseen children id unvisited seen stack :=
  fun top member => unseen top (List.mem_cons_of_mem node member)

theorem Unseen.visit [DecidableEq ι] {unvisited seen : List ι} {node : α} {stack : List α}
    (apart : unvisited.Nodup) (unseen : Unseen children id unvisited seen (node :: stack)) :
    Unseen children id (unvisited.erase (id node)) (id node :: seen) (children node ++ stack) := by
  intro top member below reached
  have before : id below ∈ unvisited ↔ id below ∉ seen := by
    rcases List.mem_append.mp member with child | further
    · exact unseen node List.mem_cons_self below (.head child reached)
    · exact unseen top (List.mem_cons_of_mem node further) below reached
  rw [apart.mem_erase_iff, before, List.mem_cons, not_or]

end

section
variable {α ι : Type} [DecidableEq ι] (children : α → List α) (id : α → ι)

/-! The loop -/

/-- Where the loop stands: the nodes still to be looked at, the next one first, the ids seen so far, the last
one first, and the nodes visited so far. -/
structure State (α ι : Type) where
  stack : List α
  seen : List ι
  visited : List α

def State.start (root : α) : State α ι := ⟨[root], [], []⟩

/-- One turn. The next node is passed over if its id was seen; else it is visited, and its children are put in
its place. Without a next node there is no turn. -/
def step (s : State α ι) : Option (State α ι) :=
  match s.stack with
  | [] => none
  | node :: stack =>
    if id node ∈ s.seen then some { s with stack }
    else some ⟨children node ++ stack, id node :: s.seen, s.visited ++ [node]⟩

/-- The loop ends after exactly so many turns. -/
inductive Ends : Nat → State α ι → State α ι → Prop where
  | done {s : State α ι} : step children id s = none → Ends 0 s s
  | next {turns : Nat} {s t final : State α ι} : step children id s = some t → Ends turns t final →
      Ends (turns + 1) s final

variable {children id}

theorem step_cases {s t : State α ι} (turned : step children id s = some t) :
    ∃ node stack, s.stack = node :: stack ∧
      ((id node ∈ s.seen ∧ t = { s with stack }) ∨
        (id node ∉ s.seen ∧ t = ⟨children node ++ stack, id node :: s.seen, s.visited ++ [node]⟩)) := by
  unfold step at turned
  split at turned
  case h_1 => cases turned
  case h_2 node stack top =>
    refine ⟨node, stack, top, ?_⟩
    split at turned
    case isTrue marked => exact .inl ⟨marked, (Option.some.inj turned).symm⟩
    case isFalse fresh => exact .inr ⟨fresh, (Option.some.inj turned).symm⟩

theorem stack_of_step_none {s : State α ι} (still : step children id s = none) : s.stack = [] := by
  unfold step at still
  split at still
  · assumption
  · split at still <;> cases still

theorem ends_walkStack {unvisited : List ι} {stack : List α} (apart : unvisited.Nodup) {seen : List ι}
    (unseen : Unseen children id unvisited seen stack) (visited : List α) : ∃ turns later,
      Ends children id turns ⟨stack, seen, visited⟩
        ⟨[], later, visited ++ walkStack children id unvisited stack⟩ := by
  -- by the measure of the walk: a visit leaves fewer ids, a node passed over leaves a shorter stack
  fun_induction walkStack children id unvisited stack generalizing seen visited with
  | case1 unvisited =>
    rw [List.append_nil]
    exact ⟨0, seen, .done rfl⟩
  | case2 unvisited node stack fresh ih =>
    have unmarked : id node ∉ seen := unseen.top.mp (List.contains_iff_mem.mp fresh)
    obtain ⟨turns, later, ends⟩ := ih (apart.erase _) (unseen.visit apart) (visited ++ [node])
    rw [List.append_assoc, List.singleton_append] at ends
    refine ⟨turns + 1, later, .next ?_ ends⟩
    simp only [step, unmarked, if_false]
  | case3 unvisited node stack known ih =>
    have marked : id node ∈ seen := by
      by_contra fresh
      exact known (List.contains_iff_mem.mpr (unseen.top.mpr fresh))
    obtain ⟨turns, later, ends⟩ := ih apart unseen.pass visited
    refine ⟨turns + 1, later, .next ?_ ends⟩
    simp only [step, marked, if_true]

theorem ends_walk {root : α} {ids : List ι} (indexes : Indexes children id root ids) :
    ∃ turns seen, Ends children id turns (.start root) ⟨[], seen, walk children id ids root⟩ := by
  refine ends_walkStack indexes.apart (fun top only node reached => ?_) []
  rw [List.mem_singleton.mp only] at reached
  exact ⟨fun _ => List.not_mem_nil, fun _ => indexes.covers node reached⟩

/-- What the loop still does is the recursive visit of its stack. -/
theorem Ends.visits {turns : Nat} {s final : State α ι} (ends : Ends children id turns s final) :
    ∃ out, final.visited = s.visited ++ out ∧ Visits children id s.seen s.stack out final.seen := by
  induction ends with
  | done still =>
    rw [stack_of_step_none still]
    exact ⟨[], (List.append_nil _).symm, .nil⟩
  | next turned _ ih =>
    obtain ⟨node, stack, top, ⟨marked, rfl⟩ | ⟨fresh, rfl⟩⟩ := step_cases turned
    · obtain ⟨out, visited, visits⟩ := ih
      exact ⟨out, visited, top ▸ .again marked visits⟩
    · obtain ⟨out, visited, visits⟩ := ih
      -- the children on the stack come before what was there, and so they do in the recursion
      obtain ⟨between, below, rest, atChildren, atStack, rfl⟩ := visits.of_append
      refine ⟨node :: below ++ rest, ?_, top ▸ .first fresh atChildren atStack⟩
      rw [visited, List.append_assoc]
      rfl

theorem exists_ends (children : α → List α) (id : α → ι) {root : α}
    (finite : {node | Reaches children root node}.Finite) :
    ∃ turns seen visited, Ends children id turns (.start root) ⟨[], seen, visited⟩ := by
  obtain ⟨ids, indexes⟩ := exists_indexes children id finite
  obtain ⟨turns, seen, ends⟩ := ends_walk indexes
  exact ⟨turns, seen, walk children id ids root, ends⟩

theorem Ends.visits_root {turns : Nat} {root : α} {seen : List ι} {visited : List α}
    (ends : Ends children id turns (.start root) ⟨[], seen, visited⟩) :
    Visits children id [] [root] visited seen := by
  obtain ⟨out, rfl, visits⟩ := ends.visits
  exact visits

/-- The walk that is told the ids, in whatever order, visits what the loop visits. -/
theorem Ends.walk_eq {turns : Nat} {root : α} {seen : List ι} {visited : List α}
    (ends : Ends children id turns (.start root) ⟨[], seen, visited⟩) {ids : List ι}
    (indexes : Indexes children id root ids) : walk children id ids root = visited := by
  obtain ⟨_, _, told⟩ := ends_walk indexes
  exact (ends.visits_root.unique told.visits_root).1

/-- A finite graph is walked in finitely many turns of the loop, cycles and shared children or not and whether
or not nodes share ids. What is visited is exactly what the recursive visit gives; the walk that is told the
ids visits the same; and on a tree whose ids all differ it is the listing in pre-order. -/
theorem walk_eq_visit (children : α → List α) (id : α → ι) (root : α)
    (finite : {node | Reaches children root node}.Finite) : ∃ turns seen visited,
      Ends children id turns (.start root) ⟨[], seen, visited⟩ ∧
      (∀ out later, Visits children id [] [root] out later ↔ out = visited ∧ later = seen) ∧
      (∃ ids, Indexes children id root ids) ∧
      (∀ ids, Indexes children id root ids → walk children id ids root = visited) ∧
      ∀ listing, Preorder children [root] listing → (listing.map id).Nodup → visited = listing := by
  obtain ⟨turns, seen, visited, ends⟩ := exists_ends children id finite
  have visits := ends.visits_root
  refine ⟨turns, seen, visited, ends, fun out later => ⟨visits.unique, ?_⟩, exists_indexes children id finite,
    fun ids indexes => ends.walk_eq indexes, fun listing preorder apart => ?_⟩
  · rintro ⟨rfl, rfl⟩
    exact visits
  · exact (visits.unique (preorder.visits apart fun _ _ => List.not_mem_nil)).1.symm

/-- Two nodes share an id in a graph with a cycle, a loop and a child listed twice; and a tree is listed. -/
theorem walk_eq_visit_cyclic :
    let tangled : Fin 4 → List (Fin 4) := ![[1, 2, 1], [3, 0], [3, 2], [1]]
    let id : Fin 4 → Nat := fun n => n.val % 3
    let tree : Fin 4 → List (Fin 4) := ![[1, 3], [2], [], []]
    (∃ turns seen, Ends tangled id turns (.start 0) ⟨[], seen, [0, 1, 2]⟩ ∧
      Visits tangled id [] [0] [0, 1, 2] seen) ∧
      ∃ turns seen, Ends tree Fin.val turns (.start 0) ⟨[], seen, [0, 1, 2, 3]⟩ := by
  intro tangled id tree
  constructor
  · obtain ⟨turns, seen, visited, ends, recursive, _, told, _⟩ := walk_eq_visit tangled id 0 (Set.toFinite _)
    have indexes : Indexes tangled id 0 [0, 1, 2] :=
      ⟨by decide, fun node _ => (by decide : ∀ n : Fin 4, n.val % 3 ∈ [0, 1, 2]) node⟩
    have three : walk tangled id [0, 1, 2] 0 = [0, 1, 2] := by cbv
    obtain rfl : [0, 1, 2] = visited := three.symm.trans (told _ indexes)
    exact ⟨turns, seen, ends, (recursive _ _).mpr ⟨rfl, rfl⟩⟩
  · obtain ⟨turns, seen, visited, ends, _, _, _, listed⟩ := walk_eq_visit tree Fin.val 0 (Set.toFinite _)
    have leaf (node : Fin 4) (bare : tree node = []) : Preorder tree [node] ([node] ++ []) := by
      have below : Preorder tree (tree node) [] := by rw [bare]; exact .nil
      exact .cons below .nil
    have inner : Preorder tree [1, 3] ([1, 2] ++ [3]) := .cons (leaf 2 rfl) (leaf 3 rfl)
    have preorder : Preorder tree [0] ([0, 1, 2, 3] ++ []) := .cons inner .nil
    obtain rfl : visited = [0, 1, 2, 3] := listed _ preorder (by decide)
    exact ⟨turns, seen, ends⟩

end

section
variable {α ι : Type} {children : α → List α} {id : α → ι}

/-! What was visited -/

/-- Every node but the first is a child of one before it. -/
def Descending (children : α → List α) (visited : List α) : Prop :=
  ∀ before node after, visited = before ++ node :: after → before ≠ [] →
    ∃ parent ∈ before, node ∈ children parent

theorem Descending.concat {visited : List α} (descending : Descending children visited) {last : α}
    (child : visited ≠ [] → ∃ parent ∈ visited, last ∈ children parent) :
    Descending children (visited ++ [last]) := by
  intro before node after split some
  rcases List.eq_nil_or_concat after with rfl | ⟨others, end', rfl⟩
  · obtain ⟨rfl, same⟩ := List.append_inj' split rfl
    cases same
    exact child some
  · rw [List.concat_eq_append, ← List.cons_append, ← List.append_assoc] at split
    exact descending before node others (List.append_inj' split rfl).1 some

structure Sound (children : α → List α) (id : α → ι) (root : α) (s : State α ι) : Prop where
  seen : s.seen = (s.visited.map id).reverse
  apart : s.seen.Nodup
  started : (s.visited = [] ∧ s.stack = [root]) ∨ s.visited.head? = some root
  reached : ∀ node, node ∈ s.visited ∨ node ∈ s.stack → Reaches children root node
  descending : Descending children s.visited
  pending : s.visited ≠ [] → ∀ node ∈ s.stack, ∃ parent ∈ s.visited, node ∈ children parent
  closed : ∀ parent ∈ s.visited, ∀ child ∈ children parent, child ∈ s.stack ∨ id child ∈ s.seen

theorem sound_start (children : α → List α) (id : α → ι) (root : α) : Sound children id root (.start root) where
  seen := rfl
  apart := List.nodup_nil
  started := .inl ⟨rfl, rfl⟩
  reached := by
    rintro node (none | only)
    · cases none
    · rw [List.mem_singleton.mp only]
      exact .refl
  descending := by
    intro before node after split
    simp [State.start] at split
  pending := fun some => absurd rfl some
  closed := fun parent none => absurd none List.not_mem_nil

theorem Sound.pass {root : α} {s : State α ι} {node : α} {stack : List α} (sound : Sound children id root s) (top : s.stack = node :: stack) (marked : id node ∈ s.seen) :
    Sound children id root { s with stack } where
  seen := sound.seen
  apart := sound.apart
  started := by
    rcases sound.started with ⟨none, _⟩ | head
    · -- nothing is seen before the first visit
      rw [sound.seen, none] at marked
      cases marked
    · exact .inr head
  reached := fun n member => sound.reached n (member.imp_right fun below => top ▸ List.mem_cons_of_mem node below)
  descending := sound.descending
  pending := fun some n below => sound.pending some n (top ▸ List.mem_cons_of_mem node below)
  closed := by
    intro parent visited child listed
    rcases sound.closed parent visited child listed with waiting | old
    · rcases List.mem_cons.mp (top ▸ waiting) with rfl | below
      · exact .inr marked
      · exact .inl below
    · exact .inr old

theorem Sound.visit {root : α} {s : State α ι} {node : α} {stack : List α} (sound : Sound children id root s) (top : s.stack = node :: stack) (fresh : id node ∉ s.seen) :
    Sound children id root ⟨children node ++ stack, id node :: s.seen, s.visited ++ [node]⟩ where
  seen := by simp [sound.seen]
  apart := List.nodup_cons.mpr ⟨fresh, sound.apart⟩
  started := by
    rcases sound.started with ⟨none, only⟩ | head
    · rw [top, List.cons.injEq] at only
      exact .inr (by simp [none, only.1])
    · exact .inr (by simp [head])
  reached := by
    have here : Reaches children root node := sound.reached node (.inr (top ▸ List.mem_cons_self))
    intro n member
    simp only [List.mem_append, List.mem_singleton] at member
    rcases member with (old | rfl) | child | below
    · exact sound.reached n (.inl old)
    · exact here
    · exact .tail here child
    · exact sound.reached n (.inr (top ▸ List.mem_cons_of_mem node below))
  descending := sound.descending.concat fun some => sound.pending some node (top ▸ List.mem_cons_self)
  pending := by
    intro _ n member
    rcases List.mem_append.mp member with child | below
    · exact ⟨node, by simp, child⟩
    · by_cases some : s.visited = []
      · -- before the first visit the root is alone on the stack
        rcases sound.started with ⟨_, only⟩ | head
        · rw [top, List.cons.injEq] at only
          rw [only.2] at below
          cases below
        · simp [some] at head
      · obtain ⟨parent, visited, child⟩ := sound.pending some n (top ▸ List.mem_cons_of_mem node below)
        exact ⟨parent, List.mem_append_left _ visited, child⟩
  closed := by
    intro parent visited child listed
    rcases List.mem_append.mp visited with old | new
    · rcases sound.closed parent old child listed with waiting | seen
      · rcases List.mem_cons.mp (top ▸ waiting) with rfl | below
        · exact .inr List.mem_cons_self
        · exact .inl (List.mem_append_right _ below)
      · exact .inr (List.mem_cons_of_mem _ seen)
    · rw [List.mem_singleton.mp new] at listed
      exact .inl (List.mem_append_left _ listed)

theorem Sound.head {root : α} {s : State α ι} (sound : Sound children id root s) (ended : s.stack = []) :
    s.visited.head? = some root := by
  rcases sound.started with ⟨_, waiting⟩ | head
  · rw [ended] at waiting
    cases waiting
  · exact head

/-- With nothing left on the stack all that is reached was visited, if ids tell nodes apart. -/
theorem Sound.complete {root : α} {s : State α ι} (sound : Sound children id root s) (ended : s.stack = [])
    (injective : Set.InjOn id {n | Reaches children root n}) {node : α} (reached : Reaches children root node) :
    node ∈ s.visited := by
  -- along the way from the root: the children of a visited node have ids that were seen
  induction reached with
  | refl => exact List.mem_of_head? (sound.head ended)
  | @tail parent child before listed ih =>
    rcases sound.closed parent ih child listed with waiting | old
    · rw [ended] at waiting
      cases waiting
    · rw [sound.seen, List.mem_reverse] at old
      obtain ⟨twin, twinVisited, same⟩ := List.mem_map.mp old
      have equal : twin = child := injective (sound.reached twin (.inl twinVisited)) (before.tail listed) same
      exact equal ▸ twinVisited

end

section
variable {α ι : Type} [DecidableEq ι] {children : α → List α} {id : α → ι}

theorem Sound.step {root : α} {s t : State α ι} (sound : Sound children id root s)
    (turned : Walk.step children id s = some t) : Sound children id root t := by
  obtain ⟨node, stack, top, ⟨marked, rfl⟩ | ⟨fresh, rfl⟩⟩ := step_cases turned
  · exact sound.pass top marked
  · exact sound.visit top fresh

theorem Sound.ends {root : α} {turns : Nat} {s final : State α ι} (sound : Sound children id root s)
    (ends : Ends children id turns s final) : Sound children id root final := by
  induction ends with
  | done => exact sound
  | next turned _ ih => exact ih (sound.step turned)

/-- The walk of a finite graph begins with the root and visits no id twice; it visits only what can be reached,
and each further node after one that has it as a child. If ids tell the nodes apart, it visits all that can be
reached, each node once. -/
theorem walk_visits_reached (children : α → List α) (id : α → ι) (root : α)
    (finite : {node | Reaches children root node}.Finite) : ∃ turns seen visited,
      Ends children id turns (.start root) ⟨[], seen, visited⟩ ∧
      (∀ ids, Indexes children id root ids → walk children id ids root = visited) ∧
      visited.head? = some root ∧ (visited.map id).Nodup ∧ (∀ node ∈ visited, Reaches children root node) ∧
      (∀ before node after, visited = before ++ node :: after → before ≠ [] →
        ∃ parent ∈ before, node ∈ children parent) ∧
      (Set.InjOn id {node | Reaches children root node} →
        visited.Nodup ∧ ∀ node, node ∈ visited ↔ Reaches children root node) := by
  obtain ⟨turns, seen, visited, ends⟩ := exists_ends children id finite
  have sound := (sound_start children id root).ends ends
  have apart : (visited.map id).Nodup := List.nodup_reverse.mp (sound.seen ▸ sound.apart)
  refine ⟨turns, seen, visited, ends, fun ids indexes => ends.walk_eq indexes, sound.head rfl, apart,
    fun node member => sound.reached node (.inl member), sound.descending, fun injective => ⟨.of_map id apart, ?_⟩⟩
  exact fun node => ⟨fun member => sound.reached node (.inl member), sound.complete rfl injective⟩

/-- Everything is reached from the root of a graph in which there is a way back to it. -/
theorem walk_visits_reached_cyclic :
    let children : Fin 4 → List (Fin 4) := ![[1, 2, 1], [3, 0], [3, 2], [1]]
    walk children Fin.val [3, 2, 1, 0] 0 = [0, 1, 3, 2] ∧ ∀ node, Reaches children 0 node := by
  intro children
  obtain ⟨_, _, visited, _, told, _, _, _, _, all⟩ := walk_visits_reached children Fin.val 0 (Set.toFinite _)
  have indexes : Indexes children Fin.val 0 [3, 2, 1, 0] :=
    ⟨by decide, fun node _ => (by decide : ∀ n : Fin 4, n.val ∈ [3, 2, 1, 0]) node⟩
  have four : walk children Fin.val [3, 2, 1, 0] 0 = [0, 1, 3, 2] := by cbv
  obtain rfl : [0, 1, 3, 2] = visited := four.symm.trans (told _ indexes)
  refine ⟨four, fun node => ?_⟩
  exact ((all Fin.val_injective.injOn).2 node).mp ((by decide : ∀ n : Fin 4, n ∈ [0, 1, 3, 2]) node)

end
end HouseStyle.Walk
