import HouseStyle.Proofs.TreeOutline
import HouseStyle.Rule.ControllerReturn
import Mathlib.Data.List.Induction

/-! Which decorators belong to a method.

In the body of a class decorators stand before their methods. They are looked for backwards from a method, as
long as there are decorators; so another member ends the search, and the methods share none. Comments are passed
over wherever they stand: all that is asked can be read off the outline of the tree.
-/

set_option autoImplicit false
namespace HouseStyle

section
variable {α : Type}

/-- Either the item comes last, or it comes before and the last item is among those after it. -/
theorem exists_split_concat {P : α → Prop} {init : List α} {last x : α} :
    (∃ front back, init ++ [last] = front ++ x :: back ∧ ∀ y ∈ back, P y) ↔
      x = last ∨ P last ∧ ∃ front back, init = front ++ x :: back ∧ ∀ y ∈ back, P y := by
  constructor
  · rintro ⟨front, back, whole, all⟩
    rcases List.eq_nil_or_concat' back with rfl | ⟨shorter, final, rfl⟩
    · exact .inl (List.head_eq_of_cons_eq (List.append_inj' whole rfl).2).symm
    · rw [← List.cons_append, ← List.append_assoc] at whole
      obtain ⟨rfl, same⟩ := List.append_inj' whole rfl
      cases same
      exact .inr ⟨all last (by simp), front, shorter, rfl, fun y member => all y (by simp [member])⟩
  · rintro (rfl | ⟨holds, front, back, rfl, all⟩)
    · exact ⟨init, [], rfl, by simp⟩
    · refine ⟨front, back ++ [last], by simp, fun y member => ?_⟩
      rcases List.mem_append.mp member with old | new
      · exact all y old
      · exact List.mem_singleton.mp new ▸ holds

theorem getElem?_between {front between rest : List α} {x : α} {gap : Nat} (within : gap < between.length) :
    ((front ++ x :: between) ++ rest)[front.length + (gap + 1)]? = between[gap]? := by
  rw [List.append_assoc, List.getElem?_append_right (by omega), Nat.add_sub_cancel_left, List.cons_append,
    List.getElem?_cons_succ, List.getElem?_append_left within]

/-- The items kept at the end of a list that all satisfy the test, from the last one backwards. -/
theorem mem_takeWhile_reverse_filter {keep test : α → Bool} {items : List α} {x : α} :
    x ∈ (items.filter keep).reverse.takeWhile test ↔ keep x = true ∧ test x = true ∧
      ∃ front back, items = front ++ x :: back ∧ ∀ y ∈ back, keep y = true → test y = true := by
  induction items using List.reverseRecOn with
  | nil => simp
  | append_singleton init last ih =>
    rw [exists_split_concat, List.filter_append, List.reverse_append]
    by_cases kept : keep last = true
    · rw [List.filter_cons_of_pos kept, List.filter_nil, List.reverse_singleton, List.singleton_append]
      by_cases passes : test last = true
      · rw [List.takeWhile_cons_of_pos passes, List.mem_cons, ih]
        constructor
        · rintro (rfl | ⟨here, good, found⟩)
          · exact ⟨kept, passes, .inl rfl⟩
          · exact ⟨here, good, .inr ⟨fun _ => passes, found⟩⟩
        · rintro ⟨here, good, same | ⟨_, found⟩⟩
          · exact .inl same
          · exact .inr ⟨here, good, found⟩
      · rw [List.takeWhile_cons_of_neg passes]
        constructor
        · intro none
          cases none
        · rintro ⟨_, good, rfl | ⟨passed, _⟩⟩
          · exact absurd good passes
          · exact absurd (passed kept) passes
    · rw [List.filter_cons_of_neg kept, List.filter_nil, List.reverse_nil, List.nil_append, ih]
      constructor
      · rintro ⟨here, good, found⟩
        exact ⟨here, good, .inr ⟨fun none => absurd none kept, found⟩⟩
      · rintro ⟨here, good, rfl | ⟨_, found⟩⟩
        · exact absurd here kept
        · exact ⟨here, good, found⟩

end

/-- A decorator that counts as a part of its parent. -/
def Node.IsDecorator (n : Node) : Prop := n.isPart = true ∧ n.kind = "decorator"

/-- A sibling stands before the site, and whatever parts stand between them are decorators. -/
def Site.HeadedBy (s : Site) (d : Node) : Prop :=
  ∃ front between, s.before = front ++ d :: between ∧ ∀ n ∈ between, n.isPart = true → n.kind = "decorator"

theorem Node.mem_decorators {n d : Node} : d ∈ n.partsOfKind "decorator" ↔ d ∈ n.children ∧ d.IsDecorator := by
  simp only [partsOfKind, parts, List.mem_filter, beq_iff_eq, IsDecorator, and_assoc]

/-- The same by indices: nothing but decorators among the parts from the sibling on. -/
theorem Site.HeadedBy.exists_index {body d : Node} {index : Nat} {m : Site} (taken : child? body index = some m)
    (headed : m.HeadedBy d) : ∃ place < index, body.children[place]? = some d ∧
      ∀ later, place < later → later < index → ∀ n, body.children[later]? = some n →
        n.isPart = true → n.kind = "decorator" := by
  obtain ⟨front, between, before, decorators⟩ := headed
  obtain ⟨after, whole⟩ := exists_after taken
  have bound := length_before taken
  rw [before] at whole bound
  rw [List.length_append, List.length_cons] at bound
  refine ⟨front.length, by omega, by simp [whole], ?_⟩
  intro later further within n listed
  obtain ⟨gap, rfl⟩ : ∃ gap, later = front.length + (gap + 1) := ⟨later - front.length - 1, by omega⟩
  rw [whole, getElem?_between (by omega)] at listed
  exact decorators n (List.mem_of_getElem? listed)

namespace ControllerReturn

/-! Whose a decorator is -/

theorem mem_methodDecorators {m : Site} {d : Node} :
    d ∈ methodDecorators m ↔ d.IsDecorator ∧ (d ∈ m.node.children ∨ m.HeadedBy d) := by
  rw [methodDecorators, List.mem_append, Node.mem_decorators, mem_takeWhile_reverse_filter]
  simp only [beq_iff_eq, Node.IsDecorator, Site.HeadedBy]
  tauto

theorem mem_methods {body : Node} {m : Site} :
    m ∈ methods body ↔ m.node.kind = "method_definition" ∧ ∃ index, Site.child? body index = some m := by
  rw [methods, List.mem_filter, Site.mem_ofSiblings (List.nil_append _).symm, beq_iff_eq, and_comm]
  simp

theorem pairwise_methods (body : Node) :
    (methods body).Pairwise fun m m' => m.before.length < m'.before.length :=
  (Site.pairwise_ofSiblings body (List.nil_append _).symm).filter _

/-- A decorator of a method is found in the method or before it. -/
theorem exists_address {body d : Node} {index : Nat} {m : Site} (taken : Site.child? body index = some m)
    (counted : d ∈ methodDecorators m) :
    (∃ place, body.at? [index, place] = some d) ∨
      ∃ place < index, body.at? [place] = some d ∧
        ∀ later, place < later → later < index → ∀ n, body.children[later]? = some n →
          n.isPart = true → n.kind = "decorator" := by
  rcases (mem_methodDecorators.mp counted).2 with own | headed
  · obtain ⟨place, listed⟩ := List.mem_iff_getElem?.mp own
    refine .inl ⟨place, ?_⟩
    simp [Node.at?, (Site.child?_eq_some_iff.mp taken).1, listed]
  · obtain ⟨place, before, listed, decorators⟩ := headed.exists_index taken
    exact .inr ⟨place, before, by simp [Node.at?, listed], decorators⟩

theorem id_ne_of_counted {body : Node} (distinct : body.everyId.Nodup) {index later : Nat} {m m' : Site}
    (taken : Site.child? body index = some m) (laterTaken : Site.child? body later = some m')
    (before : index < later) (method : m.node.kind = "method_definition") {d d' : Node}
    (counted : d ∈ methodDecorators m) (laterCounted : d' ∈ methodDecorators m') : d.id ≠ d'.id := by
  intro same
  rcases exists_address taken counted with ⟨place, leads⟩ | ⟨place, ahead, leads, _⟩ <;>
    rcases exists_address laterTaken laterCounted with ⟨place', leads'⟩ | ⟨place', _, leads', decorators⟩ <;>
    have address := Node.address_eq_of_id distinct leads leads' same
  · simp only [List.cons.injEq] at address
    omega
  · simp at address
  · simp at address
  · -- the first method stands between the decorator and the second one
    obtain rfl : place = place' := by simpa using address
    obtain ⟨listed, part, _⟩ := Site.child?_eq_some_iff.mp taken
    have decorator := decorators index ahead before m.node listed part
    rw [method] at decorator
    exact absurd decorator (by decide)

theorem not_counted_of_member_between {body : Node} (distinct : body.everyId.Nodup) {index : Nat} {m : Site}
    (taken : Site.child? body index = some m) {front between : List Node} {d n : Node}
    (before : m.before = front ++ d :: between) (member : n ∈ between) (part : n.isPart = true)
    (other : n.kind ≠ "decorator") : d ∉ methodDecorators m := by
  intro counted
  obtain ⟨after, whole⟩ := Site.exists_after taken
  have bound := Site.length_before taken
  rw [before] at whole bound
  rw [List.length_append, List.length_cons] at bound
  have here : body.at? [front.length] = some d := by simp [Node.at?, whole]
  rcases exists_address taken counted with ⟨place, leads⟩ | ⟨place, _, leads, decorators⟩
  · exact absurd (Node.address_eq_of_id distinct here leads rfl) (by simp)
  · obtain rfl : front.length = place := by simpa using Node.address_eq_of_id distinct here leads rfl
    obtain ⟨gap, listed⟩ := List.mem_iff_getElem?.mp member
    obtain ⟨within, _⟩ := List.getElem?_eq_some_iff.mp listed
    refine other (decorators (front.length + (gap + 1)) (by omega) (by omega) n ?_ part)
    rw [whole, getElem?_between within, listed]

/-- How the decorators in the body of a class are shared out among its methods. -/
structure Attributed (body : Node) : Prop where
  listed : ∀ m, m ∈ methods body ↔ m.node.kind = "method_definition" ∧ ∃ index, Site.child? body index = some m
  around : ∀ m ∈ methods body, ∃ after, body.children = m.before ++ m.node :: after
  counted : ∀ m ∈ methods body, ∀ d,
    d ∈ methodDecorators m ↔ d.IsDecorator ∧ (d ∈ m.node.children ∨ m.HeadedBy d)
  exclusive : body.everyId.Nodup → (methods body).Pairwise fun m m' =>
    ∀ d ∈ methodDecorators m, ∀ d' ∈ methodDecorators m', d.id ≠ d'.id
  separated : body.everyId.Nodup → ∀ m ∈ methods body, ∀ front d between, m.before = front ++ d :: between →
    (∃ n ∈ between, n.isPart = true ∧ n.kind ≠ "decorator") → d ∉ methodDecorators m

theorem attributed (body : Node) : Attributed body where
  listed _ := mem_methods
  around m method := by
    obtain ⟨_, index, taken⟩ := mem_methods.mp method
    exact Site.exists_after taken
  counted _ _ _ := mem_methodDecorators
  exclusive distinct := by
    refine (pairwise_methods body).imp_of_mem ?_
    intro m m' method method' less d counted d' counted'
    obtain ⟨kind, index, taken⟩ := mem_methods.mp method
    obtain ⟨_, index', taken'⟩ := mem_methods.mp method'
    rw [Site.length_before taken, Site.length_before taken'] at less
    exact id_ne_of_counted distinct taken taken' less kind counted counted'
  separated distinct := by
    rintro m method front d between before ⟨n, member, part, other⟩
    obtain ⟨_, index, taken⟩ := mem_methods.mp method
    exact not_counted_of_member_between distinct taken before member part other

def sample (id : Nat) (kind : String) (children : List Node) : Node :=
  .mk ⟨id, kind, none, true, kind == "comment", 0, 0⟩ children

/-- Two routes with a field between them, and something before the second one. -/
def twoRoutes (between : List Node) : Node :=
  sample 0 "class_body"
    ([sample 1 "decorator" [], sample 2 "method_definition" [sample 3 "decorator" []],
      sample 4 "public_field_definition" [], sample 5 "decorator" []] ++
      (between ++ [sample 6 "method_definition" []]))

example : (methods (twoRoutes [sample 7 "comment" []])).map (fun m => (methodDecorators m).map Node.id) =
    [[3, 1], [5]] := by
  decide

end ControllerReturn

/-! Decorators of outlines -/

namespace Outline

def decoratorName? (o : Outline) : Option String :=
  match o.parts.head? with
  | none => none
  | some target =>
    if target.kind == "identifier" then target.word
    else if target.kind == "call_expression" then
      ((target.child? "function").filter (·.kind == "identifier")).bind word
    else none

end Outline

namespace OutlineSite

def classDecorators (s : OutlineSite) : List Outline :=
  s.node.partsOfKind "decorator" ++
    match s.parent with
    | some parent => if parent.kind == "export_statement" then parent.partsOfKind "decorator" else []
    | none => []

def isController (s : OutlineSite) : Bool :=
  ControllerReturn.classKinds.contains s.node.kind &&
    s.classDecorators.any (·.decoratorName? == some "Controller")

def methodDecorators (s : OutlineSite) : List Outline :=
  s.node.partsOfKind "decorator" ++ (s.before.filter Outline.named).reverse.takeWhile (·.kind == "decorator")

def isRoute (s : OutlineSite) : Bool :=
  (s.methodDecorators.filterMap Outline.decoratorName?).any ControllerReturn.requests.contains

end OutlineSite

namespace ControllerReturn

section
variable (t : Tree)

theorem decoratorName?_eq (d : Node) : decoratorName? t d = (t.outline d).decoratorName? := by
  have word {n : Node} (identifier : n.kind = "identifier") : (t.outline n).word = some (t.text n) :=
    t.word_outline (identifier ▸ by decide)
  rw [decoratorName?, Outline.decoratorName?, ← Tree.map_firstPart?]
  cases d.firstPart? with
  | none => rfl
  | some target =>
    simp only [Option.map_some, Tree.kind_outline]
    split
    · next identifier => rw [word (beq_iff_eq.mp identifier)]
    · rw [← Tree.map_child?]
      cases target.child? "function" with
      | none => rfl
      | some function =>
        by_cases identifier : function.kind = "identifier"
        · simp [Option.filter, identifier, word]
        · simp [Option.filter, identifier]

theorem map_classDecorators (s : Site) : (classDecorators s).map t.outline = (t.siteOutline s).classDecorators := by
  rw [classDecorators, OutlineSite.classDecorators, List.map_append, Tree.map_partsOfKind, Tree.siteOutline]
  congr 1
  cases s.parent with
  | none => rfl
  | some parent =>
    simp only [Option.map_some, Tree.kind_outline]
    split
    · exact Tree.map_partsOfKind t parent "decorator"
    · rfl

theorem isControllerClass_eq (s : Site) : isControllerClass t s = (t.siteOutline s).isController := by
  rw [isControllerClass, OutlineSite.isController, ← map_classDecorators, List.any_map, Tree.siteOutline,
    Tree.kind_outline]
  simp only [decoratorName?_eq, Function.comp_def]

theorem map_methodDecorators (m : Site) : (methodDecorators m).map t.outline = (t.siteOutline m).methodDecorators := by
  rw [methodDecorators, OutlineSite.methodDecorators, List.map_append, Tree.map_partsOfKind, Tree.siteOutline,
    Tree.filter_named_outlines, ← List.map_reverse, List.takeWhile_map]
  simp only [Function.comp_def, Tree.kind_outline]

theorem isRoute_eq (m : Site) : isRoute t m = (t.siteOutline m).isRoute := by
  rw [isRoute, OutlineSite.isRoute, ← map_methodDecorators, List.filterMap_map]
  simp only [decoratorName?_eq, Function.comp_def]

theorem map_methods (body : Node) : (methods body).map t.siteOutline =
    (OutlineSite.ofSiblings (t.outline body) [] (t.outline body).children).filter
      (·.node.kind == "method_definition") := by
  have siblings := Tree.map_ofSiblings t body [] body.children
  rw [Tree.outlines, ← Tree.children_outline] at siblings
  rw [methods, ← siblings, List.filter_map]
  simp only [Function.comp_def, Tree.siteOutline, Tree.kind_outline]

end

/-- Decorators, routes, controllers and interfaces are the same in both trees. -/
structure ReadAlike (t t' : Tree) : Prop where
  names : ∀ d d', t.outline d = t'.outline d' → decoratorName? t d = decoratorName? t' d'
  routes : ∀ body body', t.outline body = t'.outline body' →
    (methods body).map (fun m => (t.outline m.node, isRoute t m)) =
      (methods body').map fun m => (t'.outline m.node, isRoute t' m)
  controllers : t.sites.map (fun s => (t.outline s.node, isControllerClass t s)) =
    t'.sites.map fun s => (t'.outline s.node, isControllerClass t' s)
  interfaces : (t.sites.filter (·.node.kind == "interface_declaration")).map (fun s => t.outline s.node) =
    (t'.sites.filter (·.node.kind == "interface_declaration")).map fun s => t'.outline s.node

theorem readAlike {t t' : Tree} (distinct : t.root.ids.Nodup) (distinct' : t'.root.ids.Nodup)
    (alike : t.outline t.root = t'.outline t'.root) : ReadAlike t t' := by
  have sites : t.sites.map t.siteOutline = t'.sites.map t'.siteOutline := by
    rw [t.map_sites distinct, t'.map_sites distinct', alike]
  constructor
  case names =>
    intro d d' same
    rw [decoratorName?_eq, decoratorName?_eq, same]
  case routes =>
    -- siblings that are left out of the outline are no parts, so the decorators before a method stay the same
    intro body body' same
    have listed : (methods body).map t.siteOutline = (methods body').map t'.siteOutline := by
      rw [map_methods, map_methods, same]
    have judged := congrArg (List.map fun m : OutlineSite => (m.node, m.isRoute)) listed
    simp only [List.map_map, Function.comp_def, ← isRoute_eq] at judged
    exact judged
  case controllers =>
    have judged := congrArg (List.map fun s : OutlineSite => (s.node, s.isController)) sites
    simp only [List.map_map, Function.comp_def, ← isControllerClass_eq] at judged
    exact judged
  case interfaces =>
    have found := congrArg
      (fun listed : List OutlineSite => (listed.filter (·.node.kind == "interface_declaration")).map (·.node)) sites
    simp only [List.filter_map, List.map_map, Function.comp_def, Tree.siteOutline, Tree.kind_outline] at found
    exact found

theorem outline_eq_of_gains {t t' : Tree} {n gained : Node} (same : t.source = t'.source)
    (gains : n.GainsExtra gained) : t.outline n = t'.outline gained := by
  rw [← Tree.outline_congr same gained, gains.outline_eq t]

/-- The decorators in a class body belong to the method they are part of or stand right before, and to one method
only. Trees with one outline agree on names of decorators, routes, controllers and interfaces; and extra nodes
change no outline. -/
theorem decorators_attributed :
    (∀ body : Node, Attributed body) ∧
    (∀ t t' : Tree, t.root.ids.Nodup → t'.root.ids.Nodup → t.outline t.root = t'.outline t'.root → ReadAlike t t') ∧
    (∀ t t' : Tree, t.source = t'.source → t.root.ids.Nodup → t.root.GainsExtra t'.root → ReadAlike t t') ∧
    ∀ (t t' : Tree) (n gained : Node), t.source = t'.source → n.GainsExtra gained →
      t.outline n = t'.outline gained := by
  refine ⟨attributed, fun _ _ distinct distinct' => readAlike distinct distinct', ?_, ?_⟩
  · intro t t' same distinct gains
    exact readAlike distinct (gains.ids_eq ▸ distinct) (outline_eq_of_gains same gains)
  · intro t t' n gained same gains
    exact outline_eq_of_gains same gains

theorem decorators_attributed_among_comments :
    ((twoRoutes []).everyId.Nodup ∧ Attributed (twoRoutes [])) ∧
      (∃ t t' : Tree, TypeScript.parse .plain "@Controller()class A{@Get()f(){}}" = some t ∧
        TypeScript.parse .plain "@Controller()class A{@Get()/**/f(){}}" = some t' ∧ ReadAlike t t') ∧
      ReadAlike ⟨"", twoRoutes []⟩ ⟨"", twoRoutes [sample 7 "comment" []]⟩ ∧
      (⟨"", twoRoutes []⟩ : Tree).outline (twoRoutes []) =
        (⟨"", twoRoutes [sample 7 "comment" []]⟩ : Tree).outline (twoRoutes [sample 7 "comment" []]) := by
  have gains : (twoRoutes []).GainsExtra (twoRoutes [sample 7 "comment" []]) :=
    @Node.GainsExtra.here _ [_, _, _, _] _ _ rfl
  refine ⟨⟨by decide, decorators_attributed.1 (twoRoutes [])⟩, ?_,
    decorators_attributed.2.2.1 _ _ rfl (by decide) gains, decorators_attributed.2.2.2 _ _ _ _ rfl gains⟩
  have alike : (TypeScript.parse .plain "@Controller()class A{@Get()f(){}}").map (fun t => t.outline t.root) =
        (TypeScript.parse .plain "@Controller()class A{@Get()/**/f(){}}").map (fun t => t.outline t.root) ∧
      (TypeScript.parse .plain "@Controller()class A{@Get()f(){}}").isSome = true := by decide +kernel
  obtain ⟨t, read⟩ := Option.isSome_iff_exists.mp alike.2
  obtain ⟨t', read', same⟩ := Option.map_eq_some_iff.mp (alike.1.symm.trans (congrArg _ read))
  have ids {dialect source} {t : Tree} (read : TypeScript.parse dialect source = some t) : t.root.ids.Nodup :=
    (Node.ids_sublist _).nodup (TypeScript.nodup_everyId_of_parse read)
  exact ⟨t, t', read, read', decorators_attributed.2.1 t t' (ids read) (ids read') same.symm⟩

end ControllerReturn
end HouseStyle
