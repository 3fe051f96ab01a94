import HouseStyle.Proofs.TreeListing

/-! Trees without their comments.

The outline of a node is what is left of it without extra nodes, ids and positions. Two trees that differ in
extra nodes have one outline, wherever the text was moved by them; and what can be asked of a node without
looking at extra nodes can be asked of its outline.
-/

set_option autoImplicit false
namespace HouseStyle

/-- The word is the text of an identifier. -/
inductive Outline where
  | mk (kind : String) (role : Option String) (named : Bool) (word : Option String) (children : List Outline)
  deriving Repr

namespace Outline

def kind : Outline → String
  | mk kind _ _ _ _ => kind

def role : Outline → Option String
  | mk _ role _ _ _ => role

def named : Outline → Bool
  | mk _ _ named _ _ => named

def word : Outline → Option String
  | mk _ _ _ word _ => word

def children : Outline → List Outline
  | mk _ _ _ _ children => children

def parts (o : Outline) : List Outline := o.children.filter named

def partsOfKind (o : Outline) (kind : String) : List Outline := o.parts.filter (·.kind == kind)

def child? (o : Outline) (role : String) : Option Outline := o.children.find? (·.role == some role)

mutual

def decEq : (first second : Outline) → Decidable (first = second)
  | mk kind role named word children, mk kind' role' named' word' children' =>
    have := decEqAll children children'
    decidable_of_iff (kind = kind' ∧ role = role' ∧ named = named' ∧ word = word' ∧ children = children')
      (mk.injEq ..).to_iff.symm

def decEqAll : (first second : List Outline) → Decidable (first = second)
  | [], [] => isTrue rfl
  | [], _ :: _ => isFalse nofun
  | _ :: _, [] => isFalse nofun
  | o :: rest, o' :: rest' =>
    have := decEq o o'
    have := decEqAll rest rest'
    decidable_of_iff (o = o' ∧ rest = rest') (List.cons.injEq ..).to_iff.symm

end

instance : DecidableEq Outline := decEq

/-- The kinds of identifiers. -/
def wordKinds : List String := ["identifier", "property_identifier", "type_identifier"]

end Outline

/-! Outlines of nodes -/

namespace Tree

mutual

def outline (t : Tree) : Node → Outline
  | .mk info children =>
    .mk info.kind info.role info.named
      (if info.kind ∈ Outline.wordKinds then some (t.text (.mk info children)) else none) (outlines t children)

/-- The outlines of the nodes that are not extra. -/
def outlines (t : Tree) : List Node → List Outline
  | [] => []
  | n :: rest => if n.info.extra then outlines t rest else outline t n :: outlines t rest

end

mutual

theorem outline_congr {t t' : Tree} (same : t.source = t'.source) : ∀ n : Node, t.outline n = t'.outline n
  | .mk info children => by rw [outline, outline, outlines_congr same children, text, text, same]

theorem outlines_congr {t t' : Tree} (same : t.source = t'.source) :
    ∀ nodes : List Node, t.outlines nodes = t'.outlines nodes
  | [] => rfl
  | n :: rest => by rw [outlines, outlines, outline_congr same n, outlines_congr same rest]

end

section
variable (t : Tree) (n : Node)

theorem outlines_eq (nodes : List Node) : t.outlines nodes = (nodes.filter (!·.info.extra)).map t.outline := by
  induction nodes with
  | nil => rfl
  | cons n rest ih =>
    rw [outlines, ih]
    cases extra : n.info.extra <;> simp [extra]

theorem outlines_append (first second : List Node) :
    t.outlines (first ++ second) = t.outlines first ++ t.outlines second := by
  simp only [outlines_eq, List.filter_append, List.map_append]

@[simp] theorem kind_outline : (t.outline n).kind = n.kind := by
  cases n; rfl

@[simp] theorem role_outline : (t.outline n).role = n.info.role := by
  cases n; rfl

@[simp] theorem named_outline : (t.outline n).named = n.info.named := by
  cases n; rfl

theorem children_outline : (t.outline n).children = t.outlines n.children := by
  cases n; rfl

theorem word_outline {n : Node} (identifier : n.kind ∈ Outline.wordKinds) : (t.outline n).word = some (t.text n) := by
  cases n with
  | mk info children => exact if_pos identifier

theorem filter_named_outlines (nodes : List Node) :
    (t.outlines nodes).filter Outline.named = (nodes.filter Node.isPart).map t.outline := by
  rw [outlines_eq, List.filter_map, List.filter_filter]
  congr 1
  refine List.filter_congr fun n _ => ?_
  simp [Node.isPart]

theorem map_parts : n.parts.map t.outline = (t.outline n).parts := by
  rw [Node.parts, Outline.parts, children_outline, filter_named_outlines]

theorem map_partsOfKind (kind : String) : (n.partsOfKind kind).map t.outline = (t.outline n).partsOfKind kind := by
  rw [Node.partsOfKind, Outline.partsOfKind, ← map_parts, List.filter_map]
  simp [Function.comp_def]

theorem map_firstPart? : n.firstPart?.map t.outline = (t.outline n).parts.head? := by
  rw [Node.firstPart?, ← map_parts, List.head?_map]

theorem map_child? (role : String) : (n.child? role).map t.outline = (t.outline n).child? role := by
  rw [Node.child?, Outline.child?, children_outline, outlines_eq, List.find?_map, List.find?_filter]
  congr 2
  funext child
  rw [Bool.eq_iff_iff]
  simp

end

end Tree

/-! Outlines of sites -/

structure OutlineSite where
  node : Outline
  parent : Option Outline
  before : List Outline

def Tree.siteOutline (t : Tree) (s : Site) : OutlineSite :=
  ⟨t.outline s.node, s.parent.map t.outline, t.outlines s.before⟩

namespace OutlineSite

def ofSiblings (parent : Outline) (before : List Outline) : List Outline → List OutlineSite
  | [] => []
  | o :: rest =>
    let later := ofSiblings parent (before ++ [o]) rest
    if o.named then ⟨o, some parent, before⟩ :: later else later

mutual

def listing (parent : Option Outline) (before : List Outline) : Outline → List OutlineSite
  | .mk kind role named word children =>
    ⟨.mk kind role named word children, parent, before⟩ :: listingAmong (.mk kind role named word children) [] children

def listingAmong (parent : Outline) (before : List Outline) : List Outline → List OutlineSite
  | [] => []
  | o :: rest =>
    (if o.named then listing (some parent) before o else []) ++ listingAmong parent (before ++ [o]) rest

end

end OutlineSite

namespace Tree

section
variable (t : Tree) {n : Node}

theorem outlines_cons_of_extra (extra : n.info.extra = true) (rest : List Node) :
    t.outlines (n :: rest) = t.outlines rest := by
  rw [outlines, if_pos extra]

theorem outlines_cons (kept : n.info.extra = false) (rest : List Node) :
    t.outlines (n :: rest) = t.outline n :: t.outlines rest := by
  rw [outlines, kept]
  rfl

theorem isPart_of_kept (kept : n.info.extra = false) : n.isPart = (t.outline n).named := by
  rw [Node.isPart, kept, named_outline, Bool.not_false, Bool.and_true]

theorem isPart_of_extra (extra : n.info.extra = true) : n.isPart = false := by
  rw [Node.isPart, extra, Bool.not_true, Bool.and_false]

end

theorem map_ofSiblings (t : Tree) (parent : Node) (before nodes : List Node) :
    (Site.ofSiblings parent before nodes).map t.siteOutline =
      OutlineSite.ofSiblings (t.outline parent) (t.outlines before) (t.outlines nodes) := by
  induction nodes generalizing before with
  | nil => rfl
  | cons n rest ih =>
    have later := ih (before ++ [n])
    rw [outlines_append] at later
    rw [Site.ofSiblings]
    cases extra : n.info.extra with
    | true =>
      rw [outlines_cons_of_extra t extra, outlines, List.append_nil] at later
      rw [outlines_cons_of_extra t extra, isPart_of_extra extra]
      exact later
    | false =>
      rw [outlines_cons t extra, outlines] at later
      rw [outlines_cons t extra, OutlineSite.ofSiblings, ← later, isPart_of_kept t extra]
      split
      · rfl
      · rfl

mutual

theorem map_places (t : Tree) (parent : Option Node) (before : List Node) : ∀ n : Node,
    (Site.places parent before n).map (fun place => t.siteOutline place.2) =
      OutlineSite.listing (parent.map t.outline) (t.outlines before) (t.outline n)
  | .mk info children => by
    rw [Site.places, List.map_cons, map_placesAmong t (.mk info children) [] children, outline, OutlineSite.listing]
    rfl

theorem map_placesAmong (t : Tree) (parent : Node) (before : List Node) : ∀ nodes : List Node,
    (Site.placesAmong parent before nodes).map (fun place => t.siteOutline place.2) =
      OutlineSite.listingAmong (t.outline parent) (t.outlines before) (t.outlines nodes)
  | [] => rfl
  | n :: rest => by
    have here := map_places t (some parent) before n
    have later := map_placesAmong t parent (before ++ [n]) rest
    rw [outlines_append] at later
    rw [Site.placesAmong, List.map_append, later]
    cases extra : n.info.extra with
    | true =>
      rw [outlines_cons_of_extra t extra, outlines_cons_of_extra t extra, outlines, List.append_nil,
        isPart_of_extra extra]
      rfl
    | false =>
      rw [outlines_cons t extra, outlines_cons t extra, outlines, OutlineSite.listingAmong,
        isPart_of_kept t extra]
      congr 1
      split
      · rw [List.map_map]
        exact here
      · rfl

end

/-- What a walk finds, but for extra nodes, can be read off the outline. -/
theorem map_sites (t : Tree) (distinct : t.root.ids.Nodup) :
    t.sites.map t.siteOutline = OutlineSite.listing none [] (t.outline t.root) := by
  rw [sites_eq distinct, List.map_map]
  exact map_places t none [] t.root

end Tree

/-! Extra nodes put in -/

namespace Node

/-- The second node is the first one with one more extra node somewhere in it. -/
inductive GainsExtra : Node → Node → Prop where
  | here {info : NodeInfo} {before after : List Node} {n : Node} : n.info.extra = true →
      GainsExtra (.mk info (before ++ after)) (.mk info (before ++ n :: after))
  | inside {info : NodeInfo} {before after : List Node} {n gained : Node} : GainsExtra n gained →
      GainsExtra (.mk info (before ++ n :: after)) (.mk info (before ++ gained :: after))

theorem GainsExtra.info_eq {n gained : Node} (gains : GainsExtra n gained) : gained.info = n.info := by
  cases gains with
  | here => rfl
  | inside => rfl

theorem idsOfParts_append (first second : List Node) :
    idsOfParts (first ++ second) = idsOfParts first ++ idsOfParts second := by
  induction first with
  | nil => rfl
  | cons n rest ih =>
    rw [List.cons_append, idsOfParts, idsOfParts, ih]
    split
    · rw [List.append_assoc]
    · rfl

/-- An extra node is passed over by walks, and so are the nodes in it. -/
theorem GainsExtra.ids_eq {n gained : Node} (gains : GainsExtra n gained) : gained.ids = n.ids := by
  induction gains with
  | @here info before after n extra =>
    rw [ids, ids, idsOfParts_append, idsOfParts_append, idsOfParts, Tree.isPart_of_extra extra]
    rfl
  | @inside info before after n gained gains ih =>
    have part : gained.isPart = n.isPart := by rw [isPart, isPart, gains.info_eq]
    rw [ids, ids, idsOfParts_append, idsOfParts_append, idsOfParts, idsOfParts, part, ih]

theorem GainsExtra.outline_eq (t : Tree) {n gained : Node} (gains : GainsExtra n gained) :
    t.outline gained = t.outline n := by
  induction gains with
  | @here info before after n extra =>
    have same : t.outlines (before ++ n :: after) = t.outlines (before ++ after) := by
      rw [t.outlines_append, t.outlines_append, t.outlines_cons_of_extra extra]
    rw [Tree.outline, same, Tree.outline]
    rfl
  | @inside info before after n gained gains ih =>
    have same : t.outlines (before ++ gained :: after) = t.outlines (before ++ n :: after) := by
      rw [t.outlines_append, t.outlines_append, Tree.outlines, Tree.outlines, gains.info_eq, ih]
    rw [Tree.outline, same, Tree.outline]
    rfl

end Node
end HouseStyle
