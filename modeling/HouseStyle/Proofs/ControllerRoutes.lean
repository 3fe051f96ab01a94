import HouseStyle.Proofs.Decorators
import HouseStyle.Proofs.FindingPlaces

/-! The routes of a tree and what is said about them.

A route is a method that stands in the body of a controller and is headed by a request. The routes are listed by
the address of the controller and then by their place in its body; so the routes of a controller that lies within
a method of another one come after all routes of the outer one. Each is judged once, and nothing else is said.
-/

set_option autoImplicit false
namespace HouseStyle

theorem Text.occursIn_iff {needle text : List Char} : Text.occursIn needle text = true ↔ needle <:+: text := by
  induction text with
  | nil => simp [Text.occursIn]
  | cons c rest ih =>
    rw [Text.occursIn, Bool.or_eq_true, ih, List.isPrefixOf_iff_prefix, List.infix_cons_iff]

namespace ControllerReturn

/-! What makes a route -/

/-- The name of a decorator stands in it alone, or it is called there. -/
inductive BearsName (tree : Tree) (d : Node) : String → Prop where
  | bare {target : Node} : d.firstPart? = some target → target.kind = "identifier" →
      BearsName tree d (tree.text target)
  | called {target function : Node} : d.firstPart? = some target → target.kind = "call_expression" →
      target.child? "function" = some function → function.kind = "identifier" →
      BearsName tree d (tree.text function)

structure IsController (tree : Tree) (site : Site) : Prop where
  kind : site.node.kind = "class_declaration" ∨ site.node.kind = "abstract_class_declaration"
  marked : ∃ d : Node, d.IsDecorator ∧ BearsName tree d "Controller" ∧
    (d ∈ site.node.children ∨
      ∃ parent, site.parent = some parent ∧ parent.kind = "export_statement" ∧ d ∈ parent.children)

def IsHandler (tree : Tree) (method : Site) : Prop :=
  ∃ (d : Node) (request : String), d.IsDecorator ∧ (d ∈ method.node.children ∨ method.HeadedBy d) ∧
    BearsName tree d request ∧ request ∈ requests

section
variable {tree : Tree}

theorem decoratorName?_eq_some_iff {d : Node} {name : String} :
    decoratorName? tree d = some name ↔ BearsName tree d name := by
  constructor
  · intro named
    rw [decoratorName?] at named
    split at named
    · cases named
    · next target first =>
      split at named
      · next identifier =>
        cases named
        exact .bare first (beq_iff_eq.mp identifier)
      · split at named
        · next call =>
          obtain ⟨function, found, rfl⟩ := Option.map_eq_some_iff.mp named
          obtain ⟨role, identifier⟩ := Option.filter_eq_some_iff.mp found
          exact .called first (beq_iff_eq.mp call) role (beq_iff_eq.mp identifier)
        · cases named
  · rintro (⟨first, identifier⟩ | ⟨first, call, role, identifier⟩)
    · simp [decoratorName?, first, identifier]
    · simp [decoratorName?, first, call, role, identifier, Option.filter]

theorem mem_classDecorators {site : Site} {d : Node} : d ∈ classDecorators site ↔ d.IsDecorator ∧
    (d ∈ site.node.children ∨
      ∃ parent, site.parent = some parent ∧ parent.kind = "export_statement" ∧ d ∈ parent.children) := by
  rw [classDecorators, List.mem_append, Node.mem_decorators]
  cases site.parent with
  | none => simp [and_comm]
  | some parent =>
    simp only [List.mem_ite_nil_right, beq_iff_eq, Node.mem_decorators, Option.some.injEq, exists_eq_left']
    tauto

theorem isControllerClass_iff {site : Site} : isControllerClass tree site = true ↔ IsController tree site := by
  rw [isControllerClass, Bool.and_eq_true, List.any_eq_true]
  simp only [beq_iff_eq, decoratorName?_eq_some_iff, mem_classDecorators, classKinds, List.contains_eq_mem,
    List.mem_cons, List.not_mem_nil, or_false, decide_eq_true_eq]
  constructor
  · rintro ⟨kind, d, ⟨decorator, place⟩, name⟩
    exact ⟨kind, d, decorator, name, place⟩
  · rintro ⟨kind, d, decorator, name, place⟩
    exact ⟨kind, d, ⟨decorator, place⟩, name⟩

theorem isRoute_iff {method : Site} : isRoute tree method = true ↔ IsHandler tree method := by
  rw [isRoute, List.any_eq_true]
  simp only [List.mem_filterMap, mem_methodDecorators, decoratorName?_eq_some_iff, List.contains_eq_mem,
    decide_eq_true_eq]
  constructor
  · rintro ⟨request, ⟨d, ⟨decorator, place⟩, name⟩, known⟩
    exact ⟨d, request, decorator, place, name, known⟩
  · rintro ⟨d, request, decorator, place, name, known⟩
    exact ⟨request, ⟨d, ⟨decorator, place⟩, name⟩, known⟩

end

/-! The routes of a tree -/

/-- A method, its name, and the controller it stands in with its address. -/
structure Route where
  address : Address
  controller : Site
  method : Site
  name : Node

namespace Route

structure Stands (tree : Tree) (r : Route) : Prop where
  reached : Site.at? ⟨tree.root, none, []⟩ r.address = some r.controller
  controller : IsController tree r.controller
  inBody : ∃ body index, r.controller.node.child? "body" = some body ∧ Site.child? body index = some r.method
  kind : r.method.node.kind = "method_definition"
  named : r.method.node.child? "name" = some r.name
  nameKind : r.name.kind = "property_identifier"
  handler : IsHandler tree r.method

/-- In pre-order of the controllers, and then in the order of the methods. -/
def Before (r r' : Route) : Prop :=
  r.address < r'.address ∨ r.address = r'.address ∧ r.method.before.length < r'.method.before.length

def ofMethod? (tree : Tree) (place : Address × Site) (method : Site) : Option Route :=
  match (method.node.child? "name").filter (·.kind == "property_identifier") with
  | some name => if isRoute tree method then some ⟨place.1, place.2, method, name⟩ else none
  | none => none

def ofClass (tree : Tree) (place : Address × Site) : List Route :=
  if isControllerClass tree place.2 then
    match place.2.node.child? "body" with
    | some body => (methods body).flatMap fun method => (ofMethod? tree place method).toList
    | none => []
  else []

def ofTree (tree : Tree) : List Route := (Site.places none [] tree.root).flatMap (ofClass tree)

section
variable {tree : Tree} {place : Address × Site} {r : Route}

theorem ofMethod?_eq_some_iff {method : Site} : ofMethod? tree place method = some r ↔
    r.address = place.1 ∧ r.controller = place.2 ∧ r.method = method ∧
      method.node.child? "name" = some r.name ∧ r.name.kind = "property_identifier" ∧ IsHandler tree method := by
  rw [ofMethod?, ← isRoute_iff]
  cases r with
  | mk address controller own name =>
    split
    · next found filtered =>
      obtain ⟨child, kind⟩ := Option.filter_eq_some_iff.mp filtered
      rw [child]
      by_cases handler : isRoute tree method = true
      · simp only [handler, if_true, Option.some.injEq, Route.mk.injEq]
        grind
      · simp [handler]
    · next filtered =>
      have none : ∀ n, method.node.child? "name" = some n → n.kind ≠ "property_identifier" := by
        intro n child kind
        simp [child, kind, Option.filter] at filtered
      grind

theorem mem_ofClass : r ∈ ofClass tree place ↔ r.address = place.1 ∧ r.controller = place.2 ∧
    IsController tree place.2 ∧ ∃ body, place.2.node.child? "body" = some body ∧ r.method ∈ methods body ∧
      r.method.node.child? "name" = some r.name ∧ r.name.kind = "property_identifier" ∧ IsHandler tree r.method := by
  rw [ofClass, List.mem_ite_nil_right, isControllerClass_iff]
  split
  · next body found =>
    simp only [List.mem_flatMap, Option.mem_toList, ofMethod?_eq_some_iff, found, Option.some.injEq]
    grind
  · next none => simp [none]

theorem mem_ofTree : r ∈ ofTree tree ↔ r.Stands tree := by
  rw [ofTree, List.mem_flatMap]
  constructor
  · rintro ⟨⟨address, site⟩, listed, member⟩
    obtain ⟨rfl, rfl, controller, body, found, method, named, nameKind, handler⟩ := mem_ofClass.mp member
    obtain ⟨kind, index, taken⟩ := mem_methods.mp method
    exact ⟨(Site.mem_places _).mp listed, controller, ⟨body, index, found, taken⟩, kind, named, nameKind, handler⟩
  · rintro ⟨reached, controller, ⟨body, index, found, taken⟩, kind, named, nameKind, handler⟩
    exact ⟨(r.address, r.controller), (Site.mem_places _).mpr reached, mem_ofClass.mpr
      ⟨rfl, rfl, controller, body, found, mem_methods.mpr ⟨kind, index, taken⟩, named, nameKind, handler⟩⟩

theorem pairwise_ofClass : (ofClass tree place).Pairwise Before := by
  rw [ofClass]
  split
  · split
    · next body found =>
      rw [List.pairwise_flatMap]
      refine ⟨fun method _ => ?_, (pairwise_methods body).imp ?_⟩
      · cases ofMethod? tree place method <;> simp
      · intro m m' less r member r' member'
        obtain ⟨address, _, rfl, _⟩ := ofMethod?_eq_some_iff.mp (Option.mem_toList.mp member)
        obtain ⟨address', _, rfl, _⟩ := ofMethod?_eq_some_iff.mp (Option.mem_toList.mp member')
        exact .inr ⟨address.trans address'.symm, less⟩
    · exact List.Pairwise.nil
  · exact List.Pairwise.nil

theorem pairwise_ofTree (tree : Tree) : (ofTree tree).Pairwise Before := by
  rw [ofTree, List.pairwise_flatMap]
  -- within a class the place in the body decides, between classes the address
  refine ⟨fun place _ => pairwise_ofClass, (Site.pairwise_places none [] tree.root).imp ?_⟩
  intro place place' less r member r' member'
  rw [Before, (mem_ofClass.mp member).1, (mem_ofClass.mp member').1]
  exact .inl less

end

/-- The method lies two levels below its controller. -/
theorem Stands.exists_address {tree : Tree} {r : Route} (stands : r.Stands tree) :
    ∃ place, tree.root.at? (r.address ++ [place, r.method.before.length]) = some r.method.node := by
  obtain ⟨body, index, found, taken⟩ := stands.inBody
  obtain ⟨place, listed⟩ := List.mem_iff_getElem?.mp (List.mem_of_find?_eq_some found)
  refine ⟨place, ?_⟩
  rw [Node.at?_append (Site.at?_node stands.reached), Site.length_before taken]
  simp [Node.at?, listed, (Site.child?_eq_some_iff.mp taken).1]

theorem Before.method_ne {tree : Tree} (distinct : tree.root.everyId.Nodup) {r r' : Route} (before : Before r r')
    (stands : r.Stands tree) (stands' : r'.Stands tree) : r.method.id ≠ r'.method.id := by
  intro same
  obtain ⟨place, leads⟩ := stands.exists_address
  obtain ⟨place', leads'⟩ := stands'.exists_address
  -- one id has one address, so both routes are of one class and at one place in its body
  have equal := Node.address_eq_of_id distinct leads leads' same
  obtain ⟨address, steps⟩ := List.append_inj' equal rfl
  rcases before with less | ⟨_, less⟩
  · exact absurd (address ▸ less) (List.lt_irrefl _)
  · simp only [List.cons.injEq] at steps
    omega

theorem nodup_methods {tree : Tree} (distinct : tree.root.everyId.Nodup) :
    ((ofTree tree).map (·.method.id)).Nodup := by
  rw [List.Nodup, List.pairwise_map]
  refine (pairwise_ofTree tree).imp_of_mem ?_
  intro r r' member member' before
  exact before.method_ne distinct (mem_ofTree.mp member) (mem_ofTree.mp member')

end Route

/-! What is said about a route -/

def findingAt (subject : Subject) (tree : Tree) (n : Node) (severity : Severity) (message : String) : Finding :=
  (tag.finding subject severity message).atPosition (tree.position n)

/-- The return type is missing; or it is declared, and an error tells that it is no fit, a warning that it is a
promise and the method not marked. -/
inductive Judged (subject : Subject) (tree : Tree) (r : Route) : List Finding → Prop where
  | missing : r.method.node.child? "return_type" = none →
      Judged subject tree r [findingAt subject tree r.method.node .error (missingMessage (tree.text r.name))]
  | declared {type : Node} {unfit unmarked : List Finding} : r.method.node.child? "return_type" = some type →
      (findingAt subject tree type .error (invalidMessage (tree.text r.name) (returnName tree type))).GivenWhen
        (isValidReturn (returnName tree type) = false) unfit →
      (findingAt subject tree r.method.node .warning (asyncMessage (tree.text r.name))).GivenWhen
        ("Promise".toList <:+: (returnName tree type).toList ∧
          ∀ child ∈ r.method.node.children, child.kind ≠ "async") unmarked →
      Judged subject tree r (unfit ++ unmarked)

namespace Route

def findings (subject : Subject) (tree : Tree) (r : Route) : List Finding :=
  checkReturn subject tree r.method.node (tree.text r.name)

section
variable (subject : Subject) (tree : Tree)

theorem judged (r : Route) : Judged subject tree r (r.findings subject tree) := by
  rw [findings, checkReturn]
  split
  · next none => exact .missing none
  · next type found =>
    refine .declared found (Finding.givenWhen_ite_nil _ Iff.rfl) (Finding.givenWhen_ite _ ?_)
    simp [mentions, Text.occursIn_iff, Node.hasChild]

theorem checkMethod_eq (place : Address × Site) (method : Site) :
    checkMethod subject tree method = (ofMethod? tree place method).toList.flatMap (findings subject tree) := by
  rw [checkMethod, ofMethod?]
  cases (method.node.child? "name").filter (·.kind == "property_identifier") with
  | none => rfl
  | some name => cases isRoute tree method <;> simp [findings]

theorem checkClass_eq (place : Address × Site) :
    checkClass subject tree place.2 = (ofClass tree place).flatMap (findings subject tree) := by
  rw [checkClass, ofClass]
  split
  · cases place.2.node.child? "body" with
    | none => rfl
    | some body =>
      rw [List.flatMap_assoc]
      exact List.flatMap_congr fun method _ => checkMethod_eq subject tree place method
  · rfl

theorem checkTree_eq {tree : Tree} (distinct : tree.root.ids.Nodup) :
    checkTree subject tree = (ofTree tree).flatMap (findings subject tree) := by
  rw [checkTree, Tree.sites_eq distinct, List.flatMap_map, ofTree, List.flatMap_assoc]
  exact List.flatMap_congr fun place _ => checkClass_eq subject tree place

end

end Route

/-- The routes of a tree are judged one after the other, each of them once, and nothing else is said. -/
theorem checkTree_judges_routes (subject : Subject) (tree : Tree) (distinct : tree.root.everyId.Nodup) :
    ∃ routes : List Route, (∀ r, r ∈ routes ↔ r.Stands tree) ∧ routes.Pairwise Route.Before ∧
      (routes.map (·.method.id)).Nodup ∧
      ∃ reports, List.Forall₂ (Judged subject tree) routes reports ∧ checkTree subject tree = reports.flatten := by
  refine ⟨Route.ofTree tree, fun _ => Route.mem_ofTree, Route.pairwise_ofTree tree, Route.nodup_methods distinct,
    (Route.ofTree tree).map (Route.findings subject tree), ?_, ?_⟩
  · rw [List.forall₂_map_right_iff, List.forall₂_same]
    exact fun r _ => r.judged subject tree
  · exact Route.checkTree_eq subject ((Node.ids_sublist _).nodup distinct)

/-- A controller inside a route of another one: both routes are listed, the outer one first. -/
theorem checkTree_judges_nested_routes :
    ∃ tree : Tree,
      TypeScript.parse .plain "@Controller()class A{@Get()f(){@Controller()class B{@Get()g(){}}}}" = some tree ∧
      (Route.ofTree tree).map (fun r => tree.text r.name) = ["f", "g"] ∧
      ∃ routes : List Route, (∀ r, r ∈ routes ↔ r.Stands tree) ∧ routes.Pairwise Route.Before ∧
        (routes.map (·.method.id)).Nodup ∧
        ∃ reports, List.Forall₂ (Judged (.ofPath "controller.ts") tree) routes reports ∧
          checkTree (.ofPath "controller.ts") tree = reports.flatten := by
  have names : (TypeScript.parse .plain "@Controller()class A{@Get()f(){@Controller()class B{@Get()g(){}}}}").map
      (fun tree => (Route.ofTree tree).map fun r => tree.text r.name) = some ["f", "g"] := by decide +kernel
  obtain ⟨tree, read, listed⟩ := Option.map_eq_some_iff.mp names
  exact ⟨tree, read, listed, checkTree_judges_routes _ tree (TypeScript.nodup_everyId_of_parse read)⟩

end ControllerReturn
end HouseStyle
