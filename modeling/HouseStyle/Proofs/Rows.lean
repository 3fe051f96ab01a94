import HouseStyle.TypeScript.Parser
import Mathlib.Data.List.TakeDrop

/-! Nodes side by side, and parsers that lay them so.

In a row no node begins before the one to its left ends, and the children of each node are a row inside it. A parser
continues a row when it goes on where the row ends and its answer, seen as nodes, is a row that ends where it stops.
A parser that gives back all it has read reads a row of its own; one that only looks ahead leaves every row as it is.
The combinators hand this on from the parsers they join.
-/

set_option autoImplicit false
namespace HouseStyle

/-- From `place` on the nodes stand side by side, the children of each inside it, and `next` holds of where the last
one ends. -/
def Row (next : Nat → Prop) : List Node → Nat → Prop
  | [], place => next place
  | .mk info children :: rest, place =>
    place ≤ info.start ∧ Row (· ≤ info.stop) children info.start ∧ Row next rest info.stop

/-- The children are a row inside the node. -/
def Node.Nests (n : Node) : Prop := Row (· ≤ n.info.stop) n.children n.info.start

@[simp] theorem row_nil (next : Nat → Prop) : Row next [] = next := by
  funext place
  rw [Row]

theorem row_cons {next : Nat → Prop} {n : Node} {rest : List Node} {place : Nat} :
    Row next (n :: rest) place ↔ place ≤ n.info.start ∧ n.Nests ∧ Row next rest n.info.stop := by
  cases n
  rw [Row]
  rfl

theorem Row.le {last : Nat} : ∀ {nodes : List Node} {place : Nat}, Row (· ≤ last) nodes place → place ≤ last
  | [], _, row => by rwa [row_nil] at row
  | .mk _ _ :: _, _, row => by
    rw [Row] at row
    exact Nat.le_trans row.1 (Nat.le_trans row.2.1.le row.2.2.le)

theorem Row.imp {next further : Nat → Prop} (implies : ∀ place, next place → further place) {nodes : List Node}
    {place : Nat} (row : Row next nodes place) : Row further nodes place := by
  induction nodes generalizing place with
  | nil =>
    rw [row_nil] at row ⊢
    exact implies place row
  | cons n rest ih =>
    rw [row_cons] at row ⊢
    exact ⟨row.1, row.2.1, ih row.2.2⟩

/-- What stands in a row from a place on does so from any place before it. -/
theorem Row.from_earlier {last place earlier : Nat} {nodes : List Node} (row : Row (· ≤ last) nodes place)
    (before : earlier ≤ place) : Row (· ≤ last) nodes earlier := by
  cases nodes with
  | nil =>
    rw [row_nil] at row ⊢
    exact Nat.le_trans before row
  | cons n rest =>
    rw [row_cons] at row ⊢
    exact ⟨Nat.le_trans before row.1, row.2⟩

@[simp] theorem row_append (next : Nat → Prop) (first second : List Node) :
    Row next (first ++ second) = Row (Row next second) first := by
  induction first with
  | nil =>
    rw [row_nil]
    rfl
  | cons n rest ih =>
    funext place
    rw [List.cons_append, eq_iff_iff, row_cons, row_cons, ih]

/-- The node covers the bytes that the other covers, and the children of the two stand in the same rows. -/
structure Node.SameExtent (n other : Node) : Prop where
  start : n.info.start = other.info.start
  stop : n.info.stop = other.info.stop
  inside : ∀ next, Row next n.children = Row next other.children

@[simp] theorem Node.SameExtent.refl (n : Node) : n.SameExtent n := ⟨rfl, rfl, fun _ => rfl⟩

@[simp] theorem Node.sameExtent_ite {condition : Prop} [Decidable condition] {n n' other : Node} :
    (if condition then n else n').SameExtent other ↔
      (condition → n.SameExtent other) ∧ (¬condition → n'.SameExtent other) := by
  split <;> simp [*]

theorem Node.SameExtent.row_cons {n other : Node} (same : n.SameExtent other) {next : Nat → Prop}
    {nodes others : List Node} (rest : Row next nodes = Row next others) :
    Row next (n :: nodes) = Row next (other :: others) := by
  funext place
  rw [eq_iff_iff, HouseStyle.row_cons, HouseStyle.row_cons, Nests, Nests, same.start, same.stop, same.inside, rest]

theorem row_map {alter : Node → Node} (same : ∀ n, (alter n).SameExtent n) (next : Nat → Prop) (nodes : List Node) :
    Row next (nodes.map alter) = Row next nodes := by
  induction nodes with
  | nil => rfl
  | cons n rest ih => exact (same n).row_cons ih

theorem row_iff_start {next : Nat → Prop} {n : Node} {rest : List Node} {place : Nat} :
    Row next (n :: rest) place ↔ place ≤ n.info.start ∧ Row next (n :: rest) n.info.start := by
  rw [row_cons, row_cons]
  simp

theorem row_iff_stop {next : Nat → Prop} {nodes : List Node} {last : Node} {place : Nat}
    (ends : nodes.getLast? = some last) :
    Row next nodes place ↔ Row (· ≤ last.info.stop) nodes place ∧ next last.info.stop := by
  induction nodes generalizing place with
  | nil => cases ends
  | cons n rest ih =>
    rw [row_cons, row_cons]
    cases rest with
    | nil =>
      cases ends
      simp [and_assoc]
    | cons second rest =>
      rw [List.getLast?_cons_cons] at ends
      rw [ih ends, and_assoc, and_assoc]

mutual

theorem Node.sameExtent_number : ∀ (n : Node) (id : Nat), (n.number id).1.SameExtent n
  | .mk _ children, id => ⟨rfl, rfl, row_numberAll children (id + 1)⟩

theorem row_numberAll : ∀ (nodes : List Node) (id : Nat) (next : Nat → Prop),
    Row next (Node.numberAll id nodes).1 = Row next nodes
  | [], _, _ => rfl
  | n :: rest, id, next => (Node.sameExtent_number n id).row_cons (row_numberAll rest (n.number id).2 next)

end

namespace TypeScript

/-! Forests in rows -/

@[simp] theorem sameExtent_withRole {role : String} {n other : Node} :
    (Node.withRole role n).SameExtent other ↔ n.SameExtent other := by
  cases n
  exact ⟨fun ⟨start, stop, inside⟩ => ⟨start, stop, inside⟩, fun ⟨start, stop, inside⟩ => ⟨start, stop, inside⟩⟩

@[simp] theorem sameExtent_withKind {kind : String} {n other : Node} :
    (Node.withKind kind n).SameExtent other ↔ n.SameExtent other := by
  cases n
  exact ⟨fun ⟨start, stop, inside⟩ => ⟨start, stop, inside⟩, fun ⟨start, stop, inside⟩ => ⟨start, stop, inside⟩⟩

@[simp] theorem row_inRole (role : String) (forest : Forest) (next : Nat → Prop) :
    Row next (inRole role forest) = Row next forest := by
  apply row_map
  simp

/-- A node around a part of a row begins and ends where the part does. -/
@[simp] theorem row_bundle (kind : String) (forest : Forest) (next : Nat → Prop) :
    Row next (bundle kind forest) = Row next forest := by
  have whole : forest.takeWhile (·.info.extra) ++ forest.dropWhile (·.info.extra) = forest :=
    List.takeWhile_append_dropWhile
  rw [bundle, List.span_eq_takeWhile_dropWhile]
  -- comments in front stay outside, so the two parts are looked at one after the other
  generalize forest.takeWhile (·.info.extra) = outside at *
  generalize forest.dropWhile (·.info.extra) = inside at *
  subst whole
  cases inside with
  | nil => simp
  | cons first rest =>
    obtain ⟨last, ends⟩ : ∃ last, (first :: rest).getLast? = some last := by simp [List.getLast?_cons]
    simp only [row_append]
    congr 1
    funext place
    rw [eq_iff_iff, @row_iff_start next first, row_iff_stop ends, row_cons]
    simp [ends, Node.Nests, Node.info, Node.children]

/-! Parsers -/

section
variable {α β : Type} {before : Forest} {view : α → Forest}

/-- Where the row `before` ends `p` goes on, and what `view` sees of its answer is a row that ends where `p` stops. -/
def Continues (before : Forest) (p : Parser α) (view : α → Forest) : Prop :=
  ∀ (place : Nat) (cursor after : Cursor) (answer : α), Row (· ≤ cursor.offset) before place →
    p cursor = .ok (answer, after) → Row (· ≤ after.offset) (view answer) place

/-- The parser gives back all it has read. -/
abbrev Reads (p : Parser Forest) : Prop := Continues [] p id

/-- The parser looks ahead. -/
abbrev Peeks (p : Parser α) : Prop := Continues [] p fun _ => []

theorem bind_eq_ok {p : Parser α} {f : α → Parser β} {cursor : Cursor} {result : β × Cursor} :
    (p >>= f) cursor = .ok result ↔
      ∃ answer between, p cursor = .ok (answer, between) ∧ f answer between = .ok result := by
  change (p cursor >>= fun found => f found.1 found.2) = .ok result ↔ _
  cases p cursor with
  | error failure => simp [bind, Except.bind]
  | ok found =>
    cases found
    simp [bind, Except.bind]

theorem Continues.bind {p : Parser α} {f : α → Parser β} {further : β → Forest} (first : Continues before p view)
    (second : ∀ answer, Continues (view answer) (f answer) further) : Continues before (p >>= f) further := by
  intro place cursor after answer row ran
  obtain ⟨found, between, early, late⟩ := bind_eq_ok.mp ran
  exact second found place between after answer (first place cursor between found row early) late

/-- What stands before a row is no concern of the parser that continues it. -/
theorem Continues.behind {p : Parser α} (continues : Continues before p view) (lead : Forest) :
    Continues (lead ++ before) p fun answer => lead ++ view answer := by
  intro place cursor after answer row ran
  rw [row_append] at row ⊢
  exact row.imp fun place here => continues place cursor after answer here ran

/-- A row may be told otherwise. -/
theorem Continues.respell {p : Parser α} {other : Forest} (continues : Continues before p view)
    (same : ∀ next, Row next other = Row next before) : Continues other p view := by
  simpa only [Continues, same] using continues

theorem Continues.after {p : Parser α} (continues : Continues [] p view) (lead : Forest) :
    Continues lead p fun answer => lead ++ view answer :=
  (continues.behind lead).respell (by simp)

@[simp] theorem Reads.bind {p : Parser Forest} {f : Forest → Parser α} (first : Reads p)
    (second : ∀ found, Continues (before ++ found) (f found) view) : Continues before (p >>= f) view :=
  (first.after before).bind second

@[simp] theorem Peeks.bind {p : Parser β} {f : β → Parser α} (first : Peeks p)
    (second : ∀ answer, Continues before (f answer) view) : Continues before (p >>= f) view :=
  (first.after before).bind fun answer => (second answer).respell (by simp)

@[simp] theorem continues_pure {answer : α} : Continues before (pure answer) view ↔
    ∀ place last, Row (· ≤ last) before place → Row (· ≤ last) (view answer) place := by
  constructor
  · intro continues place last row
    exact continues place ⟨[], last, 0⟩ ⟨[], last, 0⟩ answer row rfl
  · intro kept place cursor after found row ran
    cases ran
    exact kept place cursor.offset row

@[simp] theorem continues_ite {condition : Prop} [Decidable condition] {p q : Parser α} :
    Continues before (if condition then p else q) view ↔
      (condition → Continues before p view) ∧ (¬condition → Continues before q view) := by
  split <;> simp [*]

theorem Continues.ite {condition : Prop} [Decidable condition] {p q : Parser α} (first : Continues before p view)
    (second : Continues before q view) : Continues before (if condition then p else q) view :=
  continues_ite.mpr ⟨fun _ => first, fun _ => second⟩

theorem map_eq_ok {p : Parser α} {f : α → β} {cursor after : Cursor} {found : β} :
    (f <$> p) cursor = .ok (found, after) ↔ ∃ answer, p cursor = .ok (answer, after) ∧ f answer = found := by
  rw [← bind_pure_comp, bind_eq_ok]
  constructor
  · rintro ⟨answer, between, ran, finished⟩
    cases finished
    exact ⟨answer, ran, rfl⟩
  · rintro ⟨answer, ran, rfl⟩
    exact ⟨answer, after, ran, rfl⟩

theorem continues_map {p : Parser β} {f : β → α} :
    Continues before (f <$> p) view ↔ Continues before p fun answer => view (f answer) := by
  simp only [Continues, map_eq_ok]
  constructor
  · intro continues place cursor after answer row ran
    exact continues place cursor after (f answer) row ⟨answer, ran, rfl⟩
  · rintro continues place cursor after found row ⟨answer, ran, rfl⟩
    exact continues place cursor after answer row ran

@[simp] theorem peeks_map {p : Parser β} {f : β → α} : Peeks (f <$> p) ↔ Peeks p := continues_map

/-- What is read last is put to what was read before. -/
@[simp] theorem Reads.map {p : Parser Forest} {f : Forest → α} (reads : Reads p)
    (kept : ∀ found place last, Row (· ≤ last) (before ++ found) place → Row (· ≤ last) (view (f found)) place) :
    Continues before (f <$> p) view := by
  rw [← bind_pure_comp]
  exact reads.bind fun found => continues_pure.mpr (kept found)

@[simp] theorem peeks_get : Peeks get := by
  intro place cursor after answer row ran
  cases ran
  exact row

/-! Choices -/

@[simp] theorem continues_decline : Continues before decline view := by
  intro place cursor after answer row ran
  cases ran

@[simp] theorem continues_decline_bind {f : β → Parser α} : Continues before (decline >>= f) view := by
  intro place cursor after answer row ran
  obtain ⟨_, _, never, _⟩ := bind_eq_ok.mp ran
  cases never

@[simp] theorem Continues.either {p q : Parser α} (first : Continues before p view)
    (second : Continues before q view) : Continues before (either p q) view := by
  intro place cursor after answer row ran
  unfold TypeScript.either at ran
  split at ran
  · exact second place cursor after answer row ran
  · exact first place cursor after answer row ran

@[simp] theorem continues_committed {p : Parser α} :
    Continues before (committed p) view ↔ Continues before p view := by
  have same (cursor : Cursor) (result : α × Cursor) :
      committed p cursor = .ok result ↔ p cursor = .ok result := by
    unfold committed
    split <;> simp [*]
  simp only [Continues, same]

@[simp] theorem continues_tentative {p : Parser α} :
    Continues before (tentative p) view ↔ Continues before p view := by
  have same (cursor : Cursor) (result : α × Cursor) :
      tentative p cursor = .ok result ↔ p cursor = .ok result := by
    unfold tentative
    split <;> simp [*]
  simp only [Continues, same]

end

section
variable {p : Parser Forest} {before : Forest}

@[simp] theorem reads_optionally : Reads (optionally p) ↔ Reads p := by
  constructor
  · intro reads place cursor after found row ran
    refine reads place cursor after found row ?_
    rw [optionally, either, ran]
  · intro reads
    exact reads.either (by simp)

@[simp] theorem reads_onlyIf {condition : Bool} : Reads (onlyIf condition p) ↔ (condition = true → Reads p) := by
  simp [onlyIf]

/-! Sequences -/

theorem Reads.all_cons {ps : List (Parser Forest)} (first : Reads p) (rest : Reads (all ps)) :
    Reads (all (p :: ps)) := by
  have whole : all (p :: ps) = p >>= fun found => (found ++ ·) <$> all ps := by simp [all]
  rw [whole]
  exact first.bind fun found => rest.map (by simp)

@[simp] theorem reads_all {ps : List (Parser Forest)} (each : ∀ p ∈ ps, Reads p) : Reads (all ps) := by
  induction ps with
  | nil => simp [all]
  | cons p ps ih => exact (each p List.mem_cons_self).all_cons (ih fun q later => each q (List.mem_cons_of_mem p later))

theorem Reads.repeated (reads : Reads p) (fuel : Nat) : Reads (repeated p fuel) := by
  induction fuel with
  | zero => simp [TypeScript.repeated]
  | succ fuel ih =>
    intro place cursor after found row ran
    unfold TypeScript.repeated at ran
    split at ran
    · cases ran
      exact row
    · cases ran
    · next forest between early =>
      have first := reads place cursor between forest row early
      split at ran
      · -- nothing was read this time, so it ends here
        cases ran
        exact first
      · split at ran
        · next more last late =>
          have others := ih between.offset between last more (by simp) late
          cases ran
          simp only [id_eq, row_append]
          exact first.imp fun place le => others.from_earlier le
        · cases ran

@[simp] theorem Reads.many (reads : Reads p) : Reads (many p) := by
  unfold TypeScript.many
  exact peeks_get.bind fun cursor => reads.repeated cursor.room

@[simp] theorem reads_many_all {ps : List (Parser Forest)} (each : ∀ p ∈ ps, Reads p) : Reads (many (all ps)) :=
  (reads_all each).many

/-! Nodes -/

@[simp] theorem continues_labelled {role : String} :
    Continues before (labelled role p) id ↔ Continues before p id := by
  rw [labelled, bind_pure_comp, continues_map]
  simp [Continues]

@[simp] theorem continues_wrapped {kind : String} : Continues before (wrapped kind p) id ↔ Continues before p id := by
  rw [wrapped, bind_pure_comp, continues_map]
  simp [Continues]

theorem reads_wrapped_all {kind : String} {ps : List (Parser Forest)} (each : ∀ p ∈ ps, Reads p) :
    Reads (wrapped kind (all ps)) :=
  continues_wrapped.mpr (reads_all each)

/-! Lexemes -/

theorem continues_leaf (kind : String) (named extra : Bool) (lexeme : Lexeme) :
    Continues before (leaf kind named extra lexeme) fun n => before ++ [n] := by
  intro place cursor after n row ran
  cases ran
  rw [row_append]
  refine row.imp fun place le => ?_
  simp only [row_cons, Node.Nests, Node.info, Node.children, row_nil]
  omega

@[simp] theorem reads_leaf (kind : String) (named extra : Bool) (lexeme : Lexeme) :
    Reads ((fun n => [n]) <$> leaf kind named extra lexeme) :=
  continues_map.mpr (continues_leaf kind named extra lexeme)

@[simp] theorem peeks_skipSpaces : Peeks skipSpaces := by
  intro place cursor after answer row ran
  cases ran
  simp only [row_nil] at row ⊢
  omega

@[simp] theorem reads_comment : Reads comment := by
  unfold comment
  refine peeks_skipSpaces.bind fun _ => peeks_get.bind fun cursor => ?_
  split <;> simp

@[simp] theorem reads_trivia : Reads trivia := by
  unfold trivia
  refine reads_comment.many.bind fun comments => peeks_skipSpaces.bind fun _ => ?_
  simp

@[simp] theorem reads_token (kind : String) (named : Bool) (scan : Chars → Option Lexeme) :
    Reads (token kind named scan) := by
  unfold token
  refine reads_trivia.bind fun comments => peeks_get.bind fun cursor => ?_
  split
  · simp [continues_map, continues_leaf]
  · simp

@[simp] theorem reads_mark (text : String) : Reads (mark text) := reads_token _ _ _

@[simp] theorem reads_keyword (text : String) : Reads (keyword text) := reads_token _ _ _

@[simp] theorem reads_name (kind : String) : Reads (name kind) := reads_token _ _ _

@[simp] theorem reads_namedWord (kind text : String) : Reads (namedWord kind text) := reads_token _ _ _

/-! Looking ahead -/

@[simp] theorem peeks_upcoming : Peeks upcoming := by
  simp [upcoming]

@[simp] theorem peeks_upcomingName : Peeks upcomingName := by
  simp [upcomingName]

@[simp] theorem peeks_upcomingOperator : Peeks upcomingOperator := by
  simp [upcomingOperator]

@[simp] theorem peeks_comesNext {text : String} : Peeks (comesNext text) := by
  simp [comesNext]

@[simp] theorem peeks_afterName : Peeks afterName := by
  unfold afterName
  refine peeks_upcoming.bind fun text => ?_
  split <;> simp

@[simp] theorem peeks_afterBrackets : Peeks afterBrackets := by
  unfold afterBrackets
  refine peeks_get.bind fun cursor => ?_
  dsimp only
  split <;> simp

@[simp] theorem peeks_onNewLine : Peeks onNewLine := by
  simp [onNewLine]

@[simp] theorem peeks_nameEndsLine : Peeks nameEndsLine := by
  unfold nameEndsLine
  refine peeks_upcoming.bind fun text => ?_
  split <;> simp

/-! Ends of lines, and lists -/

theorem reads_lineEndAfter (context : LineContext) (fuel : Nat) : Reads (lineEndAfter context fuel) := by
  induction fuel with
  | zero => simp [lineEndAfter]
  | succ fuel ih =>
    unfold lineEndAfter
    refine peeks_get.bind fun cursor => ?_
    simp [ih]

@[simp] theorem reads_lineEnd (context : LineContext) : Reads (lineEnd context) := by
  unfold lineEnd
  exact peeks_get.bind fun cursor => reads_lineEndAfter context cursor.room

@[simp] theorem reads_semicolon (context : LineContext) : Reads (semicolon context) := by
  simp [semicolon]

@[simp] theorem Reads.commaList (reads : Reads p) : Reads (commaList p) := by
  simp [TypeScript.commaList, reads]

@[simp] theorem Reads.commaList1 (reads : Reads p) : Reads (commaList1 p) := by
  simp [TypeScript.commaList1, reads]

@[simp] theorem Reads.holeyList (reads : Reads p) : Reads (holeyList p) := by
  simp [TypeScript.holeyList, reads]

end
end TypeScript
end HouseStyle
