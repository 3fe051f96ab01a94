import HouseStyle.Proofs.InterfaceText
import HouseStyle.Proofs.StatementRows
import HouseStyle.Proofs.TreeListing

/-! The order of the findings about interfaces.

The walk of a tree lists a node before what is below it, and that before what is to its right. In a tree whose nodes
stand in rows this is the order in which they begin. It is not enough that the nodes begin in order, none before its
parent or the node to its left: if two neighbours overlap, what is below the first may begin behind the second. A
search of the text meets declarations from left to right anyway. Positions come in the order of offsets, so either way
the findings follow the source.
-/

set_option autoImplicit false
namespace HouseStyle

/-! Where the nodes of a tree begin -/

/-- The numbers never fall, and all of them lie between the bounds. -/
structure Ascends (low high : Nat) (numbers : List Nat) : Prop where
  bounds : ∀ n ∈ numbers, low ≤ n ∧ n ≤ high
  sorted : numbers.Pairwise (· ≤ ·)

namespace Ascends

variable {low middle high : Nat} {numbers more : List Nat}

theorem nil : Ascends low high [] := ⟨by simp, .nil⟩

theorem cons (ascends : Ascends low high numbers) (le : low ≤ high) : Ascends low high (low :: numbers) := by
  refine ⟨?_, List.pairwise_cons.mpr ⟨fun n member => (ascends.bounds n member).1, ascends.sorted⟩⟩
  intro n member
  rcases List.mem_cons.mp member with rfl | later
  · exact ⟨Nat.le_refl _, le⟩
  · exact ascends.bounds n later

theorem append (first : Ascends low middle numbers) (second : Ascends middle high more) (lower : low ≤ middle)
    (upper : middle ≤ high) : Ascends low high (numbers ++ more) := by
  constructor
  · intro n member
    rcases List.mem_append.mp member with early | late
    · have := first.bounds n early
      omega
    · have := second.bounds n late
      omega
  · refine List.pairwise_append.mpr ⟨first.sorted, second.sorted, ?_⟩
    intro n early m late
    exact Nat.le_trans (first.bounds n early).2 (second.bounds m late).1

theorem widen (ascends : Ascends middle high numbers) (lower : low ≤ middle) : Ascends low high numbers :=
  ⟨fun n member => ⟨Nat.le_trans lower (ascends.bounds n member).1, (ascends.bounds n member).2⟩, ascends.sorted⟩

end Ascends

namespace Site

/-- Where the listed nodes begin. -/
def starts (listing : List (Address × Site)) : List Nat := listing.map fun place => place.2.node.start

mutual

theorem ascends_places (parent : Option Node) (before : List Node) {last : Nat} :
    ∀ n : Node, Row (· ≤ last) n.children n.start → Ascends n.start last (starts (places parent before n))
  | .mk info children, row => by
    rw [places, starts, List.map_cons]
    exact (ascends_placesAmong (.mk info children) [] children row).cons row.le

theorem ascends_placesAmong (parent : Node) (before : List Node) {last : Nat} :
    ∀ (nodes : List Node) {first : Nat}, Row (· ≤ last) nodes first →
      Ascends first last (starts (placesAmong parent before nodes))
  | [], _, _ => .nil
  | n :: rest, first, row => by
    obtain ⟨ahead, nests, behind⟩ := row_cons.mp row
    have later := ascends_placesAmong parent (before ++ [n]) rest behind
    have inside : n.info.start ≤ n.info.stop := nests.le
    rw [placesAmong, starts, List.map_append]
    split
    · have here := ascends_places (some parent) before n nests
      rw [List.map_map]
      exact (here.widen ahead).append later (Nat.le_trans ahead inside) behind.le
    · exact later.widen (Nat.le_trans ahead inside)

end

end Site

/-- From `first` on no node begins before its parent or the node to its left; where nodes end does not matter. -/
def BeginInOrder (first : Nat) : List Node → Prop
  | [] => True
  | .mk info children :: rest =>
    first ≤ info.start ∧ BeginInOrder info.start children ∧ BeginInOrder info.start rest

def Tree.BeginsInOrder (t : Tree) : Prop := BeginInOrder t.root.start t.root.children

/-- In a tree whose nodes stand in rows the walk meets no node that begins before one it has met. -/
theorem Tree.pairwise_sites {t : Tree} (distinct : t.root.ids.Nodup) (inRows : t.InRows) :
    t.sites.Pairwise fun site later => site.node.start ≤ later.node.start := by
  obtain ⟨last, row⟩ := inRows
  rw [t.sites_eq distinct, List.pairwise_map]
  exact List.pairwise_map.mp (Site.ascends_places none [] t.root row).sorted

theorem TypeScript.nodup_ids_of_parse {dialect : Dialect} {source : String} {t : Tree}
    (parsed : parse dialect source = some t) : t.root.ids.Nodup :=
  (Node.ids_sublist t.root).nodup (nodup_everyId_of_parse parsed)

/-! Findings in the order of the source -/

namespace Finding

def At (f : Finding) (position : Text.Position) : Prop :=
  f.line = some position.line ∧ f.column = some position.column

theorem At.unique {f : Finding} {position other : Text.Position} (here : f.At position) (there : f.At other) :
    position = other := by
  obtain ⟨line, column⟩ := here
  obtain ⟨line', column'⟩ := there
  rw [line] at line'
  rw [column] at column'
  cases position
  cases other
  cases line'
  cases column'
  rfl

/-- All findings have a position, and none is behind one that comes later. -/
def InSourceOrder (found : List Finding) : Prop :=
  (∀ f ∈ found, ∃ position, f.At position) ∧
    found.Pairwise fun f later => ∀ position further, f.At position → later.At further → position.NotBehind further

theorem InSourceOrder.pairwise_positions {found : List Finding} (ordered : InSourceOrder found) :
    (found.map fun f => (f.line, f.column)).Pairwise fun here there =>
      ∀ position further : Text.Position, here = (some position.line, some position.column) →
        there = (some further.line, some further.column) → position.NotBehind further := by
  refine List.pairwise_map.mpr (ordered.2.imp fun before position further here there => ?_)
  exact before position further (Prod.mk.inj here) (Prod.mk.inj there)

theorem inSourceOrder_flatMap {α : Type} {content : Text.Bytes} {items : List α} {offset : α → Nat}
    {say : α → List Finding} (placed : ∀ item, ∀ f ∈ say item, f.At (Text.positionOf content (offset item)))
    (sorted : items.Pairwise fun item later => offset item ≤ offset later) : InSourceOrder (items.flatMap say) := by
  have notBehind {item later : α} (le : offset item ≤ offset later) :
      ∀ f ∈ say item, ∀ f' ∈ say later, ∀ position further, f.At position → f'.At further →
        position.NotBehind further := by
    intro f member f' member' position further here there
    rw [here.unique (placed item f member), there.unique (placed later f' member')]
    exact Text.positionOf_notBehind content le
  constructor
  · intro f member
    obtain ⟨item, _, said⟩ := List.mem_flatMap.mp member
    exact ⟨_, placed item f said⟩
  · rw [List.pairwise_flatMap]
    constructor
    · intro item _
      exact List.pairwise_of_forall_mem_list (notBehind (Nat.le_refl _))
    · exact sorted.imp notBehind

end Finding

namespace InterfaceNaming

theorem at_checkName {subject : Subject} {position : Text.Position} {name : String} {f : Finding}
    (member : f ∈ checkName subject position name) : f.At position := by
  simp only [checkName, List.mem_append, List.mem_ite_nil_left, List.mem_ite_nil_right, List.mem_singleton] at member
  rcases member with ⟨_, rfl⟩ | ⟨_, rfl⟩
  · exact ⟨rfl, rfl⟩
  · exact ⟨rfl, rfl⟩

theorem at_checkNode {subject : Subject} {tree : Tree} {node : Node} {f : Finding}
    (member : f ∈ checkNode subject tree node) : f.At (tree.position node) := by
  obtain ⟨_, named⟩ := List.mem_ite_nil_right.mp member
  split at named
  · exact at_checkName named
  · cases named

theorem checkTree_inSourceOrder (subject : Subject) {tree : Tree} (distinct : tree.root.ids.Nodup)
    (inRows : tree.InRows) : Finding.InSourceOrder (checkTree subject tree) :=
  Finding.inSourceOrder_flatMap (fun _ _ => at_checkNode) (tree.pairwise_sites distinct inRows)

theorem checkText_inSourceOrder (subject : Subject) (source : String) :
    Finding.InSourceOrder (checkText subject source) := by
  obtain ⟨found, successive, same⟩ := knows_declaration.occurrences_eq source.toList
  refine Finding.inSourceOrder_flatMap (fun _ _ => at_checkName) ?_
  rw [same, List.pairwise_map]
  exact successive.apart.imp fun apart => Nat.le_trans (Text.Match.start_le_stop _) apart

theorem check_of_read (parse : SourceParser) {subject : Subject} {read : Reader} {source : String}
    (text : read subject.location = .ok source) :
    (rule parse).check read subject = .findings (check parse subject source) := by
  change Verdict.ofSource read subject (check parse subject) = _
  rw [Verdict.ofSource, text]

theorem check_of_parse {parse : SourceParser} (subject : Subject) {source : String} {tree : Tree}
    (parsed : parse subject.path source = some tree) : check parse subject source = checkTree subject tree := by
  rw [check, parsed]

theorem check_inSourceOrder {parse : SourceParser} {subject : Subject} {source : String}
    (sound : ∀ tree, parse subject.path source = some tree → tree.root.ids.Nodup ∧ tree.InRows) :
    Finding.InSourceOrder (check parse subject source) := by
  unfold check
  split
  · next tree parsed =>
    obtain ⟨distinct, inRows⟩ := sound tree parsed
    exact checkTree_inSourceOrder subject distinct inRows
  · exact checkText_inSourceOrder subject source

/-! Interfaces that are well named -/

/-- The name is long enough and marked. -/
def WellNamed (name : List Char) : Prop := 3 ≤ name.length ∧ Marked name

theorem checkName_eq_nil_iff {subject : Subject} {position : Text.Position} {name : String} :
    checkName subject position name = [] ↔ WellNamed name.toList := by
  have marked : hasMark name.toList = true ↔ Marked name.toList := by
    rw [← not_iff_not, Bool.not_eq_true, hasMark_eq_false_iff]
  have short : isShort name.toList = true ↔ ¬3 ≤ name.toList.length := by
    rw [isShort, decide_eq_true_eq]
    omega
  simp only [checkName, WellNamed, List.append_eq_nil_iff, ite_eq_left_iff, ite_eq_right_iff, marked, short]
  simp [and_comm]

theorem checkNode_eq_nil_iff {subject : Subject} {tree : Tree} {node : Node} :
    checkNode subject tree node = [] ↔ (node.kind = "interface_declaration" →
      ∀ name, node.child? "name" = some name → WellNamed (tree.text name).toList) := by
  unfold checkNode
  cases node.child? "name" with
  | none => simp
  | some name => simp [checkName_eq_nil_iff]

theorem checkTree_eq_listed {subject : Subject} {tree : Tree} (distinct : tree.root.ids.Nodup) :
    checkTree subject tree =
      (Site.places none [] tree.root).flatMap fun place => checkNode subject tree place.2.node := by
  rw [checkTree, tree.sites_eq distinct, List.flatMap_map]

theorem checkTree_eq_nil_iff {subject : Subject} {tree : Tree} (distinct : tree.root.ids.Nodup) :
    checkTree subject tree = [] ↔ ∀ address site, Site.at? ⟨tree.root, none, []⟩ address = some site →
      site.node.kind = "interface_declaration" →
        ∀ name, site.node.child? "name" = some name → WellNamed (tree.text name).toList := by
  simp only [checkTree_eq_listed distinct, List.flatMap_eq_nil_iff, checkNode_eq_nil_iff, Prod.forall, Site.mem_places]

/-- The findings about a file that can be read are in the order of its text, whatever reads its tree, if in that tree
the ids differ and the nodes stand in rows; so they do in every tree of the grammar. Without a tree the findings are in
this order whatever the text is. And a tree gives none just if all interfaces in it are well named, however deep they
are. -/
theorem rule_in_source_order (subject : Subject) :
    (∀ (parse : SourceParser) (read : Reader) (source : String), read subject.location = .ok source →
        (∀ tree, parse subject.path source = some tree → tree.root.ids.Nodup ∧ tree.InRows) →
        ∃ found, (rule parse).check read subject = .findings found ∧ Finding.InSourceOrder found) ∧
      (∀ (path : Path) (source : String) (tree : Tree),
        TypeScript.parseFile path source = some tree → tree.root.ids.Nodup ∧ tree.InRows) ∧
      (∀ tree : Tree, tree.root.ids.Nodup → tree.InRows → Finding.InSourceOrder (checkTree subject tree)) ∧
      (∀ source : String, Finding.InSourceOrder (checkText subject source)) ∧
      ∀ tree : Tree, tree.root.ids.Nodup → (checkTree subject tree = [] ↔
        ∀ address site, Site.at? ⟨tree.root, none, []⟩ address = some site →
          site.node.kind = "interface_declaration" →
            ∀ name, site.node.child? "name" = some name → WellNamed (tree.text name).toList) := by
  refine ⟨?_, ?_, fun tree => checkTree_inSourceOrder subject, checkText_inSourceOrder subject,
    fun tree => checkTree_eq_nil_iff⟩
  · intro parse read source text sound
    exact ⟨check parse subject source, check_of_read parse text, check_inSourceOrder sound⟩
  · intro path source tree parsed
    exact ⟨TypeScript.nodup_ids_of_parse parsed, TypeScript.inRows_of_parse parsed⟩

/-- An interface in a module, and one after it. -/
def nested : String := "module m\x7binterface a\x7b\x7d\x7d\ninterface I\x7b\x7d"

/-- In the text `interface a { interface IBC }` the second interface is inside the first. -/
def inner : Tree :=
  ⟨"interface a \x7b interface IBC \x7d", .mk ⟨0, "program", none, true, false, 0, 29⟩ [
    .mk ⟨1, "interface_declaration", none, true, false, 0, 29⟩ [
      .mk ⟨2, "interface", none, false, false, 0, 9⟩ [],
      .mk ⟨3, "type_identifier", some "name", true, false, 10, 11⟩ [],
      .mk ⟨4, "interface_body", some "body", true, false, 12, 29⟩ [
        .mk ⟨5, "interface_declaration", none, true, false, 14, 27⟩ [
          .mk ⟨6, "interface", none, false, false, 14, 23⟩ [],
          .mk ⟨7, "type_identifier", some "name", true, false, 24, 27⟩ []]]]]⟩

theorem rule_in_source_order_nested :
    (∃ found, (rule TypeScript.parseFile).check (fun _ => .ok nested) (.ofPath "a.ts") = .findings found ∧
        found.map (fun f => (f.line, f.column)) =
          [(some 1, some 10), (some 1, some 10), (some 2, some 1), (some 2, some 1)] ∧
        Finding.InSourceOrder found) ∧
      (inner.root.ids.Nodup ∧ inner.InRows ∧ Finding.InSourceOrder (checkTree (.ofPath "a.ts") inner)) ∧
      ¬∀ address site, Site.at? ⟨inner.root, none, []⟩ address = some site →
        site.node.kind = "interface_declaration" →
          ∀ name, site.node.child? "name" = some name → WellNamed (inner.text name).toList := by
  obtain ⟨readable, sound, ofTree, _, empty⟩ := rule_in_source_order (.ofPath "a.ts")
  have distinct : inner.root.ids.Nodup := by decide
  have inRows : inner.InRows := ⟨29, by simp [inner, Row, Node.children, Node.start, Node.info]⟩
  refine ⟨?_, ⟨distinct, inRows, ofTree inner distinct inRows⟩, ?_⟩
  · have listed : ((TypeScript.parseFile "a.ts" nested).map fun tree =>
        ((Site.places none [] tree.root).flatMap fun place => checkNode (.ofPath "a.ts") tree place.2.node).map
          fun f => (f.line, f.column)) =
        some [(some 1, some 10), (some 1, some 10), (some 2, some 1), (some 2, some 1)] := by decide +kernel
    obtain ⟨tree, parsed, positions⟩ := Option.map_eq_some_iff.mp listed
    obtain ⟨found, verdict, ordered⟩ :=
      readable TypeScript.parseFile (fun _ => .ok nested) nested rfl (sound "a.ts" nested)
    have whole : check TypeScript.parseFile (.ofPath "a.ts") nested = found :=
      Verdict.findings.inj ((check_of_read _ rfl).symm.trans verdict)
    rw [check_of_parse (.ofPath "a.ts") parsed, checkTree_eq_listed (sound _ _ tree parsed).1] at whole
    exact ⟨found, verdict, whole ▸ positions, ordered⟩
  · rw [← empty inner distinct, checkTree_eq_listed distinct]
    decide +kernel

/-- The nodes begin in order, but the two below the root overlap. -/
def overlappingNodes : Tree :=
  let interface (id start stop : Nat) (children : List Node) : Node :=
    .mk ⟨id, "interface_declaration", none, true, false, start, stop⟩
      (.mk ⟨id + 1, "type_identifier", some "name", true, false, start, start + 1⟩ [] :: children)
  ⟨"abcdefghijkl", .mk ⟨0, "program", none, true, false, 0, 12⟩ [
    interface 1 0 12 [interface 3 10 12 []], interface 5 5 8 []]⟩

/-- The node at the eleventh byte is below the first of the two and comes before the second, at the sixth. -/
theorem rule_out_of_order_overlapping :
    overlappingNodes.root.ids.Nodup ∧ overlappingNodes.BeginsInOrder ∧
      ∃ found, (rule fun _ _ => some overlappingNodes).check (fun _ => .ok overlappingNodes.source) (.ofPath "a.ts") =
          .findings found ∧
        found.map (fun f => (f.line, f.column)) = [(some 1, some 1), (some 1, some 1), (some 1, some 11),
          (some 1, some 11), (some 1, some 6), (some 1, some 6)] ∧
        ¬Finding.InSourceOrder found := by
  have distinct : overlappingNodes.root.ids.Nodup := by decide
  have begins : overlappingNodes.BeginsInOrder := by
    simp [overlappingNodes, Tree.BeginsInOrder, BeginInOrder, Node.children, Node.start, Node.info]
  have positions : (check (fun _ _ => some overlappingNodes) (.ofPath "a.ts") overlappingNodes.source).map
      (fun f => (f.line, f.column)) = [(some 1, some 1), (some 1, some 1), (some 1, some 11), (some 1, some 11),
        (some 1, some 6), (some 1, some 6)] := by
    rw [check_of_parse _ rfl, checkTree_eq_listed distinct]
    decide +kernel
  refine ⟨distinct, begins, _, check_of_read _ rfl, positions, fun ordered => ?_⟩
  have sorted := ordered.pairwise_positions
  rw [positions] at sorted
  have notBehind : Text.Position.NotBehind ⟨1, 11⟩ ⟨1, 6⟩ :=
    List.pairwise_iff_getElem.mp sorted 2 4 (by decide) (by decide) (by decide) _ _ rfl rfl
  simp [Text.Position.NotBehind] at notBehind

end InterfaceNaming
end HouseStyle
