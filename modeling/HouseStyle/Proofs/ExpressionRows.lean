import HouseStyle.Proofs.TypeRows
import HouseStyle.TypeScript.Expressions

/-! The rules for members, markup and expressions read rows.

Operands, suffixes and operators are put around what was read before them, again and again; so for a rule that goes
on in this way the induction is over how often it may, and the row is what it has put together so far.
-/

set_option autoImplicit false
namespace HouseStyle.TypeScript

variable {g : Grammar} [g.InRows]

/-! Members -/

@[simp] theorem reads_statements : Reads (statements g) := by
  apply Reads.many
  refine peeks_upcoming.bind fun text => ?_
  simp

@[simp] theorem reads_statementBlock : Reads (statementBlock g) := by
  simp [statementBlock]

@[simp] theorem reads_body : Reads (body g) := by
  simp [body]

@[simp] theorem reads_asyncWord : Reads asyncWord := by
  unfold asyncWord
  refine peeks_upcomingName.bind fun word => peeks_nameEndsLine.bind fun breaks => ?_
  simp

@[simp] theorem reads_methodKind : Reads methodKind := by
  simp [methodKind]

@[simp] theorem peeks_signatureAhead : Peeks signatureAhead := by
  simp [signatureAhead]

@[simp] theorem reads_objectMember : Reads (objectMember g) := by
  unfold objectMember
  refine peeks_comesNext.bind fun spreads => Continues.ite (by simp) ?_
  refine Reads.bind (by simp) fun lead => Reads.bind (by simp) fun key => ?_
  refine peeks_signatureAhead.bind fun isMethod => Continues.ite (by simp) ?_
  have same (next : Nat → Prop) : Row next (key.map fun n => if n.info.extra then n
      else Node.withKind "shorthand_property_identifier" n) = Row next key := by
    apply row_map
    simp
  split
  · simp
  · -- no word stands before the key
    refine peeks_comesNext.bind fun valued => ?_
    simp_all

@[simp] theorem reads_objectLiteral : Reads (objectLiteral g) := by
  simp [objectLiteral]

@[simp] theorem reads_reservedModifier (word : String) : Reads (reservedModifier word) := by
  simp [reservedModifier]

@[simp] theorem reads_memberWords : Reads memberWords := by
  simp [memberWords]

@[simp] theorem reads_memberEnd (context : LineContext) : Reads (memberEnd context) := by
  simp [memberEnd]

@[simp] theorem reads_fieldEnd (context : LineContext) : Reads (fieldEnd context) := by
  simp [fieldEnd]

theorem continues_fieldTail : Continues [] (fieldTail g) Prod.fst := by
  unfold fieldTail
  refine peeks_upcoming.bind fun text => Reads.bind (by simp) fun optional => ?_
  refine Reads.bind (by simp) fun type => Reads.bind (by simp) fun value => ?_
  simp

@[simp] theorem reads_classMember : Reads (classMember g) := by
  unfold classMember
  refine Reads.bind (by simp) fun marks => peeks_comesNext.bind fun isEmpty => ?_
  extract_lets
  refine Continues.ite (by simp) (peeks_upcomingName.bind fun word => peeks_afterName.bind fun after => ?_)
  refine Continues.ite (by simp) (peeks_indexAhead.bind fun indexes => Continues.ite (by simp) ?_)
  refine Reads.bind (by simp) fun words => Reads.bind (by simp) fun name => Reads.bind (by simp) fun optional => ?_
  extract_lets lead
  -- decorators stay outside a method and go into a field; the row is the same
  refine peeks_signatureAhead.bind fun isMethod => Continues.ite ?_ ?_
  · refine Reads.bind (by simp) fun signature => peeks_comesNext.bind fun opens => ?_
    extract_lets
    refine Continues.ite ?_ (Continues.ite (by simp) ?_)
    · refine Continues.ite (by simp) (Reads.bind (by simp) fun body => ?_)
      simp [lead]
    · simp [lead]
  · refine (continues_fieldTail.after _).bind fun (tail, valued) => ?_
    simp [lead]

@[simp] theorem reads_classBody : Reads (classBody g) := by
  apply reads_wrapped_all
  simp

@[simp] theorem reads_superclass : Reads (superclass g) := by
  simp [superclass]

@[simp] theorem reads_classHeritage : Reads (classHeritage g) := by
  unfold classHeritage
  refine Reads.bind (peeks_upcomingName.bind fun word => by simp) fun parents => ?_
  refine Reads.bind (peeks_upcomingName.bind fun word => by simp) fun promises => ?_
  simp

@[simp] theorem reads_classRest : Reads (classRest g) := by
  simp [classRest]

@[simp] theorem peeks_classNamed : Peeks classNamed := by
  simp [classNamed]

@[simp] theorem continues_classDeclaration (marks : Forest) : Continues marks (classDeclaration g marks) id := by
  unfold classDeclaration
  refine Reads.bind (by simp) fun rest => ?_
  simp

@[simp] theorem continues_abstractClassDeclaration (marks : Forest) :
    Continues marks (abstractClassDeclaration g marks) id := by
  unfold abstractClassDeclaration
  refine Reads.bind (by simp) fun rest => ?_
  simp

@[simp] theorem continues_classExpression (marks : Forest) : Continues marks (classExpression g marks) id := by
  unfold classExpression
  refine peeks_classNamed.bind fun named => Reads.bind (by simp) fun rest => ?_
  simp

/-! Markup -/

@[simp] theorem reads_tagName : Reads tagName := by
  unfold tagName
  refine Reads.bind (by simp) fun first => peeks_comesNext.bind fun qualified => Continues.ite (by simp) ?_
  exact peeks_get.bind fun cursor => continues_memberChain cursor.room first

@[simp] theorem reads_embedded : Reads (embedded g) := by
  apply reads_wrapped_all
  simp

@[simp] theorem reads_attributeName : Reads attributeName := by
  unfold attributeName
  refine Reads.bind (by simp) fun first => peeks_comesNext.bind fun qualified => ?_
  simp

theorem Reads.tagAttribute {element : Parser Forest} (reads : Reads element) : Reads (tagAttribute g element) := by
  unfold TypeScript.tagAttribute
  refine peeks_upcoming.bind fun text => ?_
  split
  case h_4 =>
    refine continues_wrapped.mpr (Reads.all_cons (by simp) (Reads.all_cons ?_ (by simp)))
    refine peeks_comesNext.bind fun valued => Continues.ite ?_ (by simp)
    refine Reads.all_cons (by simp) (Reads.all_cons (peeks_upcoming.bind fun text => ?_) (by simp))
    split <;> simp [reads]
  all_goals simp

@[simp] theorem reads_tagText : Reads tagText := by
  unfold tagText
  refine peeks_get.bind fun cursor => ?_
  split <;> simp

theorem reads_elementWithin (depth : Nat) : Reads (elementWithin g depth) := by
  induction depth with
  | zero => simp [elementWithin]
  | succ depth ih =>
    unfold elementWithin
    extract_lets element openingEnd
    have reads_openingEnd : Reads openingEnd := by
      refine Reads.bind (by simp) fun comments => peeks_get.bind fun cursor => ?_
      split
      · simp [continues_map, continues_leaf]
      · simp
    refine Reads.bind (by simp) fun lead => Reads.bind ?_ fun head => peeks_comesNext.bind fun closes => ?_
    · refine peeks_comesNext.bind fun isBare => Continues.ite (by simp) (Reads.bind (by simp) fun tag => ?_)
      refine Reads.bind (by simp) fun types => ?_
      simp [ih.tagAttribute, element]
    · refine Continues.ite (by simp) (reads_openingEnd.bind fun opening => ?_)
      refine Reads.bind (Reads.many (Continues.either (by simp) (peeks_get.bind fun cursor => ?_))) fun content => ?_
      · split
        · simp
        · exact Continues.ite (by simp) ih
        · simp
      · refine Reads.bind ?_ fun closing => by simp
        apply reads_wrapped_all
        simp

@[simp] theorem reads_element : Reads (element g) := by
  unfold element
  exact peeks_get.bind fun cursor => reads_elementWithin cursor.room

/-! Expressions -/

@[simp] theorem reads_parenthesized : Reads (parenthesized g) := by
  apply reads_wrapped_all
  simp

@[simp] theorem reads_functionExpression : Reads (functionExpression g) := by
  unfold functionExpression
  refine Reads.bind (by simp) fun lead => Reads.bind (by simp) fun star => Reads.bind (by simp) fun rest => ?_
  simp

@[simp] theorem reads_arrowBody (mode : Mode) : Reads (arrowBody g mode) := by
  simp [arrowBody]

@[simp] theorem continues_simpleArrow (mode : Mode) (lead : Forest) : Continues lead (simpleArrow g mode lead) id := by
  unfold simpleArrow
  refine Reads.bind (by simp) fun rest => ?_
  simp

@[simp] theorem continues_signatureArrow (mode : Mode) (lead : Forest) :
    Continues lead (signatureArrow g mode lead) id := by
  unfold signatureArrow
  refine Reads.bind (by simp) fun signature => Reads.bind (by simp) fun rest => peeks_comesNext.bind fun colon => ?_
  simp

@[simp] theorem continues_arrowOrParentheses (mode : Mode) (lead : Forest) {other : Parser Forest}
    (continues : Continues lead other id) : Continues lead (arrowOrParentheses g mode lead other) id := by
  unfold arrowOrParentheses
  refine peeks_afterBrackets.bind fun after => ?_
  simp [continues]

@[simp] theorem reads_arrayLiteral : Reads (arrayLiteral g) := by
  simp [arrayLiteral]

@[simp] theorem reads_template : Reads (template g) :=
  (reads_expressions {}).templateOf _ _

@[simp] theorem reads_angled (mode : Mode) : Reads (angled g mode) := by
  unfold angled
  refine Continues.either (by simp) ?_
  simp

@[simp] theorem reads_newExpression : Reads (newExpression g) := by
  unfold newExpression
  refine Reads.bind (by simp) fun lead => peeks_upcomingOperator.bind fun op => Continues.ite (by simp) ?_
  refine Reads.bind (by simp) fun target => Reads.bind (by simp) fun types => Reads.bind (by simp) fun values => ?_
  simp

@[simp] theorem reads_importExpression : Reads importExpression := by
  simp [importExpression]

@[simp] theorem reads_wordExpression (mode : Mode) : Reads (wordExpression g mode) := by
  unfold wordExpression
  refine peeks_upcomingName.bind fun word => peeks_afterName.bind fun after => ?_
  refine Continues.ite (by simp) (Continues.ite (by simp) (Continues.ite (by simp) (Continues.ite (by simp) ?_)))
  refine Continues.ite (by simp) (Continues.ite (by simp) (peeks_nameEndsLine.bind fun breaks => ?_))
  refine Continues.ite (Continues.ite (by simp) (Continues.ite (by simp) (Continues.ite ?_ ?_))) (by simp)
  · refine Continues.either (continues_tentative.mpr ?_) (by simp)
    simp
  · refine Continues.ite (Continues.either (continues_tentative.mpr ?_) (by simp)) (by simp)
    simp

@[simp] theorem reads_primary (mode : Mode) : Reads (primary g mode) := by
  unfold primary
  refine peeks_upcoming.bind fun text => ?_
  split <;> simp

@[simp] theorem reads_instantiation (calls : Bool) : Reads (instantiation g calls) := by
  unfold instantiation
  refine Reads.bind (by simp) fun types => peeks_upcoming.bind fun text => ?_
  refine peeks_upcoming.bind fun text => peeks_onNewLine.bind fun breaks => ?_
  simp

@[simp] theorem continues_instantiated (target types : Forest) :
    Continues (target ++ types) (instantiated g target types) id := by
  unfold instantiated
  refine peeks_upcoming.bind fun text => ?_
  split <;> simp

theorem continues_suffixes (mode : Mode) (calls : Bool) (fuel : Nat) (target : Forest) :
    Continues target (suffixes g mode calls fuel target) id := by
  induction fuel generalizing target with
  | zero => simp [suffixes]
  | succ fuel ih =>
    unfold suffixes
    extract_lets again subscript call member
    -- whatever follows the target may have suffixes in its turn
    have subscripted (lead : Forest) : Continues (target ++ lead) (subscript lead >>= again) id :=
      Continues.bind (Reads.bind (by simp) fun index => by simp) ih
    have called (lead : Forest) : Continues (target ++ lead) (call lead >>= again) id :=
      Continues.bind (Reads.bind (by simp) fun values => by simp) ih
    have selected (lead : Forest) : Continues (target ++ lead) (member lead >>= again) id :=
      Continues.bind (Reads.bind (by simp) fun property => by simp) ih
    have alone {p : Parser Forest} (continues : Continues (target ++ []) p id) : Continues target p id :=
      continues.respell (by simp)
    refine peeks_onNewLine.bind fun breaks => peeks_upcoming.bind fun text => ?_
    split
    · exact Continues.ite (alone (called [])) (by simp)
    · exact alone (subscripted [])
    · exact Reads.bind (by simp) fun text => (ih _).respell (by simp)
    · refine peeks_upcomingOperator.bind fun op => ?_
      split
      · exact Reads.bind (by simp) selected
      · refine Reads.bind (by simp) fun lead => peeks_upcoming.bind fun text => ?_
        split
        · exact called lead
        · exact subscripted lead
        · exact selected lead
      · refine Continues.ite (Reads.bind (by simp) fun found => ?_) (by simp)
        exact (ih _).respell (by simp)
      · refine Continues.ite (Reads.bind (by simp) fun types => ?_) (by simp)
        split
        · simp_all
        · exact Continues.bind (continues_committed.mpr (continues_instantiated target types)) ih

@[simp] theorem reads_operand (mode : Mode) (calls : Bool) : Reads (operand g mode calls) := by
  unfold operand
  refine Reads.bind (by simp) fun first => Continues.ite (by simp) (peeks_get.bind fun cursor => ?_)
  exact continues_suffixes mode calls cursor.room first

@[simp] theorem reads_postfixed (mode : Mode) : Reads (postfixed g mode) := by
  unfold postfixed
  refine Reads.bind (by simp) fun target => peeks_upcomingOperator.bind fun op => peeks_onNewLine.bind fun breaks => ?_
  simp

@[simp] theorem peeks_operandFollows : Peeks operandFollows := by
  unfold operandFollows
  refine peeks_afterName.bind fun text => ?_
  split <;> simp

theorem reads_unary (mode : Mode) (depth : Nat) : Reads (unary g mode depth) := by
  induction depth with
  | zero => simp [unary]
  | succ depth ih =>
    unfold unary
    refine peeks_upcomingOperator.bind fun op => peeks_upcomingName.bind fun word => ?_
    simp [ih]

@[simp] theorem peeks_upcomingInfix (mode : Mode) : Peeks (upcomingInfix mode) := by
  unfold upcomingInfix
  refine peeks_upcomingName.bind fun word => ?_
  simp

theorem Reads.rightSide {operand : Parser Forest} (reads : Reads operand) (mode : Mode) (op : String) (left : Forest) :
    Continues left (rightSide g mode op operand left) id := by
  unfold TypeScript.rightSide
  refine Continues.ite (by simp) ?_
  have spelled : Reads (if (name? op.toList).isSome then keyword op else mark op) := by simp
  refine Reads.bind ?_ fun right => by simp
  simp [spelled, reads]

theorem Reads.joined {operand : Parser Forest} (reads : Reads operand) (mode : Mode) (ops : List String) (fuel : Nat)
    (left : Forest) : Continues left (joined g mode ops operand fuel left) id := by
  induction fuel generalizing left with
  | zero => simp [TypeScript.joined]
  | succ fuel ih =>
    unfold TypeScript.joined
    refine (peeks_upcomingInfix mode).bind fun op => Continues.ite ?_ (by simp)
    exact (reads.rightSide mode op left).bind fun further => ih further

theorem reads_power (mode : Mode) (fuel : Nat) : Reads (power g mode fuel) := by
  induction fuel with
  | zero => simp [power]
  | succ fuel ih =>
    unfold power
    refine peeks_get.bind fun cursor => (reads_unary mode cursor.room).bind fun left => ?_
    exact peeks_upcomingOperator.bind fun op => Continues.ite (ih.rightSide mode "**" left) (by simp)

@[simp] theorem reads_joinedLevels (mode : Mode) (levels : List (List String)) :
    Reads (joinedLevels g mode levels) := by
  induction levels with
  | nil =>
    unfold joinedLevels
    exact peeks_get.bind fun cursor => reads_power mode cursor.room
  | cons ops tighter ih =>
    unfold joinedLevels
    refine ih.bind fun left => Continues.ite (by simp) (peeks_get.bind fun cursor => ?_)
    exact ih.joined mode ops cursor.room left

@[simp] theorem reads_choice (mode : Mode) : Reads (choice g mode) := by
  unfold choice
  refine Reads.bind (by simp) fun condition => Continues.ite (by simp) ?_
  refine peeks_upcomingOperator.bind fun op => ?_
  simp

@[simp] theorem peeks_patternAssignmentAhead : Peeks patternAssignmentAhead := by
  simp [patternAssignmentAhead]

@[simp] theorem reads_yieldExpression (mode : Mode) : Reads (yieldExpression g mode) := by
  unfold yieldExpression
  refine Reads.bind (by simp) fun lead => peeks_comesNext.bind fun delegates => Continues.ite (by simp) ?_
  refine peeks_upcoming.bind fun text => peeks_onNewLine.bind fun breaks => ?_
  simp

theorem reads_anyExpression (mode : Mode) : Reads (anyExpression g mode) := by
  unfold anyExpression
  refine peeks_upcomingName.bind fun word => peeks_afterName.bind fun after => Continues.ite (by simp) ?_
  refine peeks_patternAssignmentAhead.bind fun assigns => Continues.ite (by simp) ?_
  refine Reads.bind (by simp) fun left => peeks_upcomingOperator.bind fun op => ?_
  simp

end HouseStyle.TypeScript
