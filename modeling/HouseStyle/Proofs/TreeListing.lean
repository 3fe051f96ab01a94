import HouseStyle.Proofs.Walks
import HouseStyle.Tree.Node
import HouseStyle.TypeScript.Program
import Mathlib.Data.List.Lex
import Mathlib.Data.List.Nodup

/-! Trees by the addresses of their nodes.

An address says which child to take at every level, counted among all children. Addresses of parts in order are
the parts in pre-order; and where all ids differ, the walk lists each part once and in this order, and no id is
found at two addresses.
-/

set_option autoImplicit false
namespace HouseStyle

/-! Walks of listings -/

namespace Walk

variable {α ι : Type} {children : α → List α} {id : α → ι}

theorem Preorder.mem_of_reaches {nodes out : List α} (listing : Preorder children nodes out) {top node : α}
    (member : top ∈ nodes) (reached : Reaches children top node) : node ∈ out := by
  induction listing generalizing top with
  | nil => cases member
  | @cons first rest below out _ _ belowIH restIH =>
    rw [List.cons_append, List.mem_cons, List.mem_append]
    rcases List.mem_cons.mp member with rfl | later
    · rcases reached.cases_head with same | ⟨child, listed, further⟩
      · exact .inl same.symm
      · exact .inr (.inl (belowIH listed further))
    · exact .inr (.inr (restIH later reached))

/-- A walk of a tree whose ids all differ is the listing. -/
theorem Preorder.walk_eq [DecidableEq ι] {root : α} {listing : List α} (preorder : Preorder children [root] listing)
    (apart : (listing.map id).Nodup) : walk children id (listing.map id) root = listing := by
  have indexes : Indexes children id root (listing.map id) :=
    ⟨apart, fun node reached => List.mem_map_of_mem (preorder.mem_of_reaches List.mem_cons_self reached)⟩
  obtain ⟨_, _, ends⟩ := ends_walk indexes
  exact ((preorder.visits apart fun _ _ => List.not_mem_nil).unique ends.visits_root).1

end Walk

/-- Which child to take at every level. -/
abbrev Address := List Nat

namespace Site

/-- The site of the child at an index, if it is a part. -/
def child? (parent : Node) (index : Nat) : Option Site :=
  match parent.children[index]? with
  | some n => if n.isPart then some ⟨n, some parent, parent.children.take index⟩ else none
  | none => none

/-- The site at an address, where all steps lead to parts. -/
def at? : Site → Address → Option Site
  | s, [] => some s
  | s, index :: rest => (child? s.node index).bind (at? · rest)

mutual

/-- The sites of a node and of the parts below it with their addresses, each before those below it. -/
def places (parent : Option Node) (before : List Node) : Node → List (Address × Site)
  | .mk info children => ([], ⟨.mk info children, parent, before⟩) :: placesAmong (.mk info children) [] children

def placesAmong (parent : Node) (before : List Node) : List Node → List (Address × Site)
  | [] => []
  | n :: rest =>
    (if n.isPart then (places (some parent) before n).map fun place => (before.length :: place.1, place.2)
      else []) ++ placesAmong parent (before ++ [n]) rest

end

/-! Addresses -/

theorem child?_length {parent n : Node} {before rest : List Node} (whole : parent.children = before ++ n :: rest) :
    child? parent before.length = if n.isPart then some ⟨n, some parent, before⟩ else none := by
  simp [child?, whole]

mutual

theorem mem_places {parent : Option Node} {before : List Node} :
    ∀ (n : Node) {address : Address} {site : Site},
      (address, site) ∈ places parent before n ↔ at? ⟨n, parent, before⟩ address = some site
  | .mk info children, address, site => by
    rw [places, List.mem_cons, mem_placesAmong children rfl]
    cases address with
    | nil => simp [at?, eq_comm]
    | cons index rest => simp [at?]

theorem mem_placesAmong {parent : Node} {before : List Node} :
    ∀ (nodes : List Node) (_ : parent.children = before ++ nodes) {address : Address} {site : Site},
      (address, site) ∈ placesAmong parent before nodes ↔
        ∃ index rest, address = index :: rest ∧ before.length ≤ index ∧
          (child? parent index).bind (at? · rest) = some site
  | [], whole, address, site => by
    rw [placesAmong]
    constructor
    · intro none
      cases none
    · rintro ⟨index, rest, _, beyond, found⟩
      have nothing : parent.children[index]? = none := by simpa [whole] using beyond
      simp [child?, nothing] at found
  | n :: rest, whole, address, site => by
    have further : parent.children = (before ++ [n]) ++ rest := by rw [whole, List.append_assoc]; rfl
    rw [placesAmong, List.mem_append, mem_placesAmong rest further, List.length_append, List.length_singleton]
    constructor
    · rintro (here | ⟨index, tail, rfl, later, found⟩)
      · split at here
        · next part =>
          obtain ⟨⟨below, inner⟩, member, same⟩ := List.mem_map.mp here
          obtain ⟨rfl, rfl⟩ := Prod.mk.inj same
          refine ⟨before.length, below, rfl, Nat.le_refl _, ?_⟩
          rw [child?_length whole, if_pos part]
          exact (mem_places n).mp member
        · cases here
      · exact ⟨index, tail, rfl, Nat.le_of_succ_le later, found⟩
    · -- the first step leads into this child or into one after it
      rintro ⟨index, tail, rfl, later, found⟩
      rcases Nat.eq_or_lt_of_le later with rfl | after
      · rw [child?_length whole] at found
        split at found
        · next part =>
          rw [if_pos part]
          exact .inl (List.mem_map.mpr ⟨(tail, site), (mem_places n).mpr found, rfl⟩)
        · cases found
      · exact .inr ⟨index, tail, rfl, after, found⟩

end

/-! The order of addresses -/

theorem exists_cons_of_mem_placesAmong {parent : Node} {before nodes : List Node} {place : Address × Site}
    (member : place ∈ placesAmong parent before nodes) :
    ∃ index rest, place.1 = index :: rest ∧ before.length ≤ index := by
  induction nodes generalizing before with
  | nil => cases member
  | cons n rest ih =>
    rw [placesAmong, List.mem_append] at member
    rcases member with here | later
    · split at here
      · obtain ⟨below, _, rfl⟩ := List.mem_map.mp here
        exact ⟨before.length, below.1, rfl, Nat.le_refl _⟩
      · cases here
    · obtain ⟨index, tail, same, after⟩ := ih later
      rw [List.length_append, List.length_singleton] at after
      exact ⟨index, tail, same, Nat.le_of_succ_le after⟩

mutual

theorem pairwise_places (parent : Option Node) (before : List Node) :
    ∀ n : Node, (places parent before n).Pairwise fun first second => first.1 < second.1
  | .mk info children => by
    rw [places, List.pairwise_cons]
    refine ⟨fun place member => ?_, pairwise_placesAmong _ _ children⟩
    obtain ⟨index, rest, same, _⟩ := exists_cons_of_mem_placesAmong member
    rw [same]
    exact List.nil_lt_cons _ _

theorem pairwise_placesAmong (parent : Node) (before : List Node) :
    ∀ nodes : List Node, (placesAmong parent before nodes).Pairwise fun first second => first.1 < second.1
  | [] => List.Pairwise.nil
  | n :: rest => by
    rw [placesAmong, List.pairwise_append]
    refine ⟨?_, pairwise_placesAmong parent _ rest, ?_⟩
    · split
      · rw [List.pairwise_map]
        refine (pairwise_places (some parent) before n).imp ?_
        intro first second less
        exact List.cons_lt_cons_iff.mpr (.inr ⟨rfl, less⟩)
      · exact List.Pairwise.nil
    · -- all of the first child comes before anything of the children after it
      intro first here second later
      obtain ⟨index, tail, same, after⟩ := exists_cons_of_mem_placesAmong later
      split at here
      · obtain ⟨below, _, rfl⟩ := List.mem_map.mp here
        rw [List.length_append, List.length_singleton] at after
        rw [same]
        exact List.cons_lt_cons_iff.mpr (.inl after)
      · cases here

end

/-! The walk -/

mutual

theorem preorder_children (parent : Option Node) (before : List Node) : ∀ n : Node,
    Walk.Preorder children (children ⟨n, parent, before⟩) ((placesAmong n [] n.children).map Prod.snd)
  | .mk info nodes => preorder_ofSiblings (.mk info nodes) [] nodes

theorem preorder_ofSiblings (parent : Node) (before : List Node) : ∀ nodes : List Node,
    Walk.Preorder children (ofSiblings parent before nodes) ((placesAmong parent before nodes).map Prod.snd)
  | [] => .nil
  | .mk info inner :: rest => by
    have later := preorder_ofSiblings parent (before ++ [.mk info inner]) rest
    rw [ofSiblings, placesAmong]
    split
    · have below := preorder_children (some parent) before (.mk info inner)
      rw [places, List.map_append, List.map_map]
      exact .cons below later
    · exact later

end

theorem preorder_places (parent : Option Node) (before : List Node) (n : Node) :
    Walk.Preorder children [⟨n, parent, before⟩] ((places parent before n).map Prod.snd) := by
  have whole := Walk.Preorder.cons (preorder_children parent before n) .nil
  cases n
  simpa [places, Node.children] using whole

mutual

theorem map_id_places (parent : Option Node) (before : List Node) :
    ∀ n : Node, ((places parent before n).map Prod.snd).map id = n.ids
  | .mk info nodes => by
    rw [places, List.map_cons, List.map_cons, map_id_placesAmong (.mk info nodes) [] nodes, Node.ids]
    rfl

theorem map_id_placesAmong (parent : Node) (before : List Node) :
    ∀ nodes : List Node, ((placesAmong parent before nodes).map Prod.snd).map id = Node.idsOfParts nodes
  | [] => rfl
  | n :: rest => by
    rw [placesAmong, List.map_append, List.map_append, map_id_placesAmong parent _ rest, Node.idsOfParts]
    split
    · rw [← map_id_places (some parent) before n]
      simp
    · rfl

end

end Site

/-- The walk of a tree lists the parts by their addresses. -/
theorem Tree.sites_eq {t : Tree} (distinct : t.root.ids.Nodup) :
    t.sites = (Site.places none [] t.root).map Prod.snd := by
  have ids := Site.map_id_places none [] t.root
  rw [Tree.sites, ← ids]
  exact (Site.preorder_places none [] t.root).walk_eq (ids ▸ distinct)

/-! All ids of a tree -/

namespace Node

mutual

/-- The ids of a node and of all nodes below it, tokens and comments included. -/
def everyId : Node → List Nat
  | mk info children => info.id :: everyIdOfEach children

def everyIdOfEach : List Node → List Nat
  | [] => []
  | n :: rest => everyId n ++ everyIdOfEach rest

end

mutual

theorem ids_sublist : ∀ n : Node, n.ids.Sublist n.everyId
  | mk info children => by
    rw [ids, everyId]
    exact (idsOfParts_sublist children).cons_cons _

theorem idsOfParts_sublist : ∀ nodes : List Node, (idsOfParts nodes).Sublist (everyIdOfEach nodes)
  | [] => .slnil
  | n :: rest => by
    rw [idsOfParts, everyIdOfEach]
    split
    · exact (ids_sublist n).append (idsOfParts_sublist rest)
    · exact (idsOfParts_sublist rest).trans (List.sublist_append_right _ _)

end

theorem everyIdOfEach_eq (nodes : List Node) : everyIdOfEach nodes = nodes.flatMap everyId := by
  induction nodes with
  | nil => rfl
  | cons n rest ih => rw [everyIdOfEach, ih, List.flatMap_cons]

theorem everyId_eq (n : Node) : n.everyId = n.id :: n.children.flatMap everyId := by
  cases n with
  | mk info children =>
    rw [everyId, everyIdOfEach_eq]
    rfl

theorem number_mk (info : NodeInfo) (children : List Node) (next : Nat) : (mk info children).number next =
    (mk { info with id := next } (numberAll (next + 1) children).1, (numberAll (next + 1) children).2) := rfl

theorem numberAll_cons (n : Node) (rest : List Node) (next : Nat) : numberAll next (n :: rest) =
    ((n.number next).1 :: (numberAll (n.number next).2 rest).1, (numberAll (n.number next).2 rest).2) := rfl

mutual

/-- Numbering a node gives it and the nodes below it the ids that follow each other. -/
theorem everyId_number : ∀ (n : Node) (next : Nat), next < (n.number next).2 ∧
    (n.number next).1.everyId = List.range' next ((n.number next).2 - next)
  | mk info children, next => by
    obtain ⟨free, listed⟩ := everyId_numberAll children (next + 1)
    rw [number_mk, everyId, listed, ← List.range'_succ]
    refine ⟨free, congrArg (List.range' next ·) ?_⟩
    dsimp only
    omega

theorem everyId_numberAll : ∀ (nodes : List Node) (next : Nat), next ≤ (numberAll next nodes).2 ∧
    everyIdOfEach (numberAll next nodes).1 = List.range' next ((numberAll next nodes).2 - next)
  | [], next => by
    rw [numberAll]
    exact ⟨Nat.le_refl _, by simp [everyIdOfEach]⟩
  | n :: rest, next => by
    obtain ⟨between, first⟩ := everyId_number n next
    obtain ⟨free, others⟩ := everyId_numberAll rest (n.number next).2
    rw [numberAll_cons, everyIdOfEach, first, others]
    refine ⟨Nat.le_trans (Nat.le_of_lt between) free, ?_⟩
    -- the ids of the rest begin where those of the first node end
    have joined := @List.range'_append_1 next ((n.number next).2 - next)
      ((numberAll (n.number next).2 rest).2 - (n.number next).2)
    rw [Nat.add_sub_cancel' (Nat.le_of_lt between)] at joined
    rw [joined]
    refine congrArg (List.range' next ·) ?_
    dsimp only
    omega

end

theorem nodup_everyId_number (n : Node) (next : Nat) : (n.number next).1.everyId.Nodup := by
  rw [(everyId_number n next).2]
  exact List.nodup_range'

end Node

/-- The ids of a tree that was read all differ. -/
theorem TypeScript.nodup_everyId_of_parse {dialect : Dialect} {source : String} {t : Tree}
    (read : parse dialect source = some t) : t.root.everyId.Nodup := by
  rw [parse] at read
  split at read
  · cases read
  · cases read
    exact Node.nodup_everyId_number _ 0

namespace Node

/-- The node at an address, whatever the steps lead to. -/
def at? : Node → Address → Option Node
  | n, [] => some n
  | n, index :: rest => n.children[index]?.bind (at? · rest)

theorem at?_append {n inner : Node} {address further : Address} (leads : n.at? address = some inner) :
    n.at? (address ++ further) = inner.at? further := by
  induction address generalizing n with
  | nil =>
    cases leads
    rfl
  | cons index rest ih =>
    obtain ⟨child, listed, inside⟩ := Option.bind_eq_some_iff.mp leads
    rw [List.cons_append, at?, listed, Option.bind_some, ih inside]

theorem id_mem_everyId {n found : Node} {address : Address} (leads : n.at? address = some found) :
    found.id ∈ n.everyId := by
  induction address generalizing n with
  | nil =>
    cases leads
    rw [everyId_eq]
    exact List.mem_cons_self
  | cons index rest ih =>
    obtain ⟨child, listed, further⟩ := Option.bind_eq_some_iff.mp leads
    rw [everyId_eq]
    exact List.mem_cons_of_mem _ (List.mem_flatMap.mpr ⟨child, List.mem_of_getElem? listed, ih further⟩)

/-- Where all ids differ, an id is found at one address only. -/
theorem address_eq_of_id {n first second : Node} (distinct : n.everyId.Nodup) {address other : Address}
    (leads : n.at? address = some first) (otherLeads : n.at? other = some second) (same : first.id = second.id) :
    address = other := by
  induction address generalizing n other with
  | nil =>
    cases leads
    cases other with
    | nil => rfl
    | cons index rest =>
      obtain ⟨child, listed, further⟩ := Option.bind_eq_some_iff.mp otherLeads
      rw [everyId_eq, List.nodup_cons] at distinct
      exact absurd (List.mem_flatMap.mpr ⟨child, List.mem_of_getElem? listed, id_mem_everyId further⟩)
        (same ▸ distinct.1)
  | cons index rest ih =>
    obtain ⟨child, listed, further⟩ := Option.bind_eq_some_iff.mp leads
    rw [everyId_eq, List.nodup_cons, List.nodup_flatMap] at distinct
    obtain ⟨above, inside, apart⟩ := distinct
    cases other with
    | nil =>
      cases otherLeads
      exact absurd (List.mem_flatMap.mpr ⟨child, List.mem_of_getElem? listed, id_mem_everyId further⟩)
        (same ▸ above)
    | cons otherIndex otherRest =>
      obtain ⟨otherChild, otherListed, otherFurther⟩ := Option.bind_eq_some_iff.mp otherLeads
      -- two children have no ids in common, so the first steps agree
      have step : index = otherIndex := by
        by_contra differ
        have here := id_mem_everyId further
        have there := same ▸ id_mem_everyId otherFurther
        obtain ⟨bound, rfl⟩ := List.getElem?_eq_some_iff.mp listed
        obtain ⟨otherBound, rfl⟩ := List.getElem?_eq_some_iff.mp otherListed
        rcases Nat.lt_or_gt_of_ne differ with before | after
        · exact List.pairwise_iff_getElem.mp apart _ _ bound otherBound before here there
        · exact List.pairwise_iff_getElem.mp apart _ _ otherBound bound after there here
      subst step
      obtain rfl : child = otherChild := Option.some.inj (listed.symm.trans otherListed)
      rw [ih (inside child (List.mem_of_getElem? listed)) further otherFurther]

end Node

namespace Site

theorem child?_eq_some_iff {parent : Node} {index : Nat} {s : Site} :
    child? parent index = some s ↔ parent.children[index]? = some s.node ∧ s.node.isPart = true ∧
      s.parent = some parent ∧ s.before = parent.children.take index := by
  rw [child?]
  cases s with
  | mk node above before =>
    split
    · next n listed =>
      by_cases part : n.isPart
      · simp only [part, if_true, listed, Option.some.injEq, Site.mk.injEq]
        constructor
        · rintro ⟨rfl, rfl, rfl⟩
          exact ⟨rfl, part, rfl, rfl⟩
        · rintro ⟨rfl, _, rfl, rfl⟩
          exact ⟨rfl, rfl, rfl⟩
      · simp only [part, listed]
        constructor
        · intro none
          cases none
        · rintro ⟨same, here, _⟩
          cases same
          exact absurd here part
    · next none => simp [none]

theorem length_before {parent : Node} {index : Nat} {s : Site} (taken : child? parent index = some s) :
    s.before.length = index := by
  obtain ⟨listed, _, _, before⟩ := child?_eq_some_iff.mp taken
  obtain ⟨bound, _⟩ := List.getElem?_eq_some_iff.mp listed
  rw [before, List.length_take, Nat.min_eq_left (Nat.le_of_lt bound)]

/-- The siblings of a site stand around it in its parent. -/
theorem exists_after {parent : Node} {index : Nat} {s : Site} (taken : child? parent index = some s) :
    ∃ after, parent.children = s.before ++ s.node :: after := by
  obtain ⟨listed, _, _, before⟩ := child?_eq_some_iff.mp taken
  obtain ⟨bound, same⟩ := List.getElem?_eq_some_iff.mp listed
  refine ⟨parent.children.drop (index + 1), ?_⟩
  rw [before, ← same, ← List.drop_eq_getElem_cons bound, List.take_append_drop]

theorem mem_ofSiblings {parent : Node} {before nodes : List Node} (whole : parent.children = before ++ nodes)
    {s : Site} :
    s ∈ ofSiblings parent before nodes ↔ ∃ index, before.length ≤ index ∧ child? parent index = some s := by
  induction nodes generalizing before with
  | nil =>
    constructor
    · intro none
      cases none
    · rintro ⟨index, beyond, taken⟩
      have nothing : parent.children[index]? = none := by simpa [whole] using beyond
      rw [(child?_eq_some_iff.mp taken).1] at nothing
      cases nothing
  | cons n rest ih =>
    have further : parent.children = (before ++ [n]) ++ rest := by rw [whole, List.append_assoc]; rfl
    have later := ih further
    rw [List.length_append, List.length_singleton] at later
    have here := child?_length whole
    rw [ofSiblings]
    constructor
    · intro member
      split at member
      · next part =>
        rcases List.mem_cons.mp member with rfl | further
        · exact ⟨before.length, Nat.le_refl _, here.trans (if_pos part)⟩
        · obtain ⟨index, after, taken⟩ := later.mp further
          exact ⟨index, Nat.le_of_succ_le after, taken⟩
      · obtain ⟨index, after, taken⟩ := later.mp member
        exact ⟨index, Nat.le_of_succ_le after, taken⟩
    · rintro ⟨index, within, taken⟩
      rcases Nat.eq_or_lt_of_le within with rfl | after
      · rw [here] at taken
        split at taken
        · next part =>
          cases taken
          rw [if_pos part]
          exact List.mem_cons_self
        · cases taken
      · have further := later.mpr ⟨index, after, taken⟩
        split
        · exact List.mem_cons_of_mem _ further
        · exact further

theorem pairwise_ofSiblings (parent : Node) {before nodes : List Node} (whole : parent.children = before ++ nodes) :
    (ofSiblings parent before nodes).Pairwise fun first second => first.before.length < second.before.length := by
  induction nodes generalizing before with
  | nil => exact List.Pairwise.nil
  | cons n rest ih =>
    have further : parent.children = (before ++ [n]) ++ rest := by rw [whole, List.append_assoc]; rfl
    rw [ofSiblings]
    split
    · refine List.pairwise_cons.mpr ⟨fun s member => ?_, ih further⟩
      obtain ⟨index, after, taken⟩ := (mem_ofSiblings further).mp member
      rw [List.length_append, List.length_singleton] at after
      rw [length_before taken]
      exact after
    · exact ih further

theorem at?_node {s found : Site} {address : Address} (leads : s.at? address = some found) :
    s.node.at? address = some found.node := by
  induction address generalizing s with
  | nil =>
    cases leads
    rfl
  | cons index rest ih =>
    obtain ⟨child, taken, further⟩ := Option.bind_eq_some_iff.mp leads
    exact Option.bind_eq_some_iff.mpr ⟨child.node, (child?_eq_some_iff.mp taken).1, ih further⟩

end Site

end HouseStyle
