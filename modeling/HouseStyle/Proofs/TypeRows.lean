import HouseStyle.Proofs.Rows
import HouseStyle.TypeScript.Types

/-! The rules for signatures and types read rows.

Each rule is opened once, in the order in which it reads: what it has read so far is the row that the rest of the rule
continues. A rule that goes on from something already read is said to continue it.
-/

set_option autoImplicit false
namespace HouseStyle.TypeScript

/-- What the rules call upon is read in rows. -/
class Grammar.InRows (g : Grammar) : Prop where
  reads : ∀ goal, Reads (g.read goal)

attribute [simp] Grammar.InRows.reads

variable {g : Grammar} [g.InRows]

@[simp] theorem reads_statement : Reads g.statement := Grammar.InRows.reads _

@[simp] theorem reads_expression : Reads g.expression := Grammar.InRows.reads _

@[simp] theorem reads_type : Reads g.type := Grammar.InRows.reads _

@[simp] theorem reads_expressions (mode : Mode) : Reads (g.expressions mode) := by
  unfold Grammar.expressions
  refine Reads.bind (by simp) fun first => Reads.bind (by simp) fun more => ?_
  split <;> simp_all

/-! Signatures -/

@[simp] theorem reads_stringLiteral : Reads stringLiteral := reads_token _ _ _

@[simp] theorem reads_numberLiteral : Reads numberLiteral := reads_token _ _ _

@[simp] theorem reads_privateName : Reads privateName := reads_token _ _ _

@[simp] theorem reads_equals : Reads equals := by
  simp [equals]

@[simp] theorem reads_questionMark : Reads questionMark := by
  simp [questionMark]

@[simp] theorem reads_propertyName : Reads (propertyName g) := by
  unfold propertyName
  refine peeks_upcoming.bind fun text => ?_
  split <;> simp [computedName]

@[simp] theorem reads_typeClause (lineEnds : Bool) : Reads (typeClause g lineEnds) := by
  simp [typeClause]

@[simp] theorem reads_optionalTypeClause (lineEnds : Bool) : Reads (optionalTypeClause g lineEnds) := by
  simp [optionalTypeClause]

@[simp] theorem reads_typeArguments : Reads (typeArguments g) := by
  simp [typeArguments]

@[simp] theorem reads_constraint : Reads (constraint g) := by
  unfold constraint
  refine peeks_upcomingName.bind fun word => ?_
  simp

@[simp] theorem reads_typeParameter : Reads (typeParameter g) := by
  unfold typeParameter
  refine peeks_upcomingName.bind fun word => peeks_afterName.bind fun after => ?_
  simp

@[simp] theorem reads_typeParameters : Reads (typeParameters g) := by
  simp [typeParameters]

@[simp] theorem reads_optionalTypeParameters : Reads (optionalTypeParameters g) := by
  simp [optionalTypeParameters]

@[simp] theorem reads_spreadElement : Reads (spreadElement g) := by
  simp [spreadElement]

@[simp] theorem reads_argument : Reads (argument g) := by
  simp [argument]

@[simp] theorem reads_arguments : Reads (arguments g) := by
  simp [arguments]

theorem continues_memberChain (fuel : Nat) (object : Forest) : Continues object (memberChain fuel object) id := by
  induction fuel generalizing object with
  | zero => simp [memberChain]
  | succ fuel ih =>
    unfold memberChain
    refine peeks_upcomingOperator.bind fun op => Continues.ite ?_ (by simp)
    refine Reads.bind (by simp) fun dot => Reads.bind (by simp) fun property => ?_
    exact (ih _).respell (by simp)

@[simp] theorem reads_decoratorTarget : Reads (decoratorTarget g) := by
  unfold decoratorTarget
  refine Reads.bind (by simp) fun first => peeks_get.bind fun cursor => ?_
  refine (continues_memberChain cursor.room first).bind fun target => peeks_upcoming.bind fun text => ?_
  simp

@[simp] theorem reads_decorator : Reads (decorator g) := by
  apply reads_wrapped_all
  simp

@[simp] theorem reads_decorators : Reads (decorators g) := by
  simp [decorators]

@[simp] theorem reads_initializer (mode : Mode) : Reads (initializer g mode) := by
  simp [initializer]

theorem reads_patternWithin (places : Bool) (depth : Nat) : Reads (patternWithin g places depth) := by
  induction depth with
  | zero => simp [patternWithin]
  | succ depth ih =>
    unfold patternWithin
    extract_lets pattern withDefault member
    have reads_withDefault : Reads withDefault := by
      refine ih.bind fun left => Reads.bind (by simp) fun default => ?_
      split <;> simp_all
    have reads_member : Reads member := by
      refine peeks_comesNext.bind fun spreads => Continues.ite (by simp [pattern, ih]) ?_
      refine Reads.bind (by simp) fun key => peeks_comesNext.bind fun valued => ?_
      refine Continues.ite (by simp [reads_withDefault]) ?_
      extract_lets short left goOn
      -- a name that stands for itself is given another kind, and stays where it is
      have same (next : Nat → Prop) : Row next short = Row next key := by
        apply row_map
        simp
      refine Continues.respell (?_ : Continues short _ _) fun next => (same next).symm
      refine Continues.ite (by simp) (Reads.bind (by simp) fun default => ?_)
      split <;> simp_all [left]
    refine peeks_upcoming.bind fun text => ?_
    split <;> simp [pattern, ih, reads_withDefault, reads_member]

@[simp] theorem reads_pattern : Reads (pattern g) := by
  unfold pattern
  exact peeks_get.bind fun cursor => reads_patternWithin false cursor.room

@[simp] theorem reads_placePattern : Reads (placePattern g) := by
  unfold placePattern
  exact peeks_get.bind fun cursor => reads_patternWithin true cursor.room

@[simp] theorem peeks_modifiesPattern : Peeks modifiesPattern := by
  unfold modifiesPattern
  refine peeks_afterName.bind fun text => ?_
  split <;> simp

@[simp] theorem reads_parameterModifier : Reads parameterModifier := by
  simp [parameterModifier]

@[simp] theorem reads_parameter : Reads (parameter g) := by
  unfold parameter
  refine Reads.bind (by simp) fun name => Reads.bind (by simp) fun optional => Reads.bind (by simp) fun rest => ?_
  simp

@[simp] theorem reads_formalParameters : Reads (formalParameters g) := by
  simp [formalParameters]

@[simp] theorem reads_typePredicate (lineEnds : Bool) : Reads (typePredicate g lineEnds) := by
  simp [typePredicate]

@[simp] theorem peeks_predicateAhead : Peeks predicateAhead := by
  simp [predicateAhead]

@[simp] theorem reads_assertion (lineEnds : Bool) : Reads (assertion g lineEnds) := by
  apply reads_wrapped_all
  simp

@[simp] theorem peeks_assertionAhead : Peeks assertionAhead := by
  unfold assertionAhead
  refine peeks_upcomingName.bind fun word => peeks_afterName.bind fun after => ?_
  simp

@[simp] theorem reads_returnType (lineEnds : Bool) : Reads (returnType g lineEnds) := by
  unfold returnType
  refine Reads.bind (by simp) fun colon => peeks_assertionAhead.bind fun asserts => ?_
  simp

@[simp] theorem reads_callSignature (lineEnds : Bool) : Reads (callSignature g lineEnds) := by
  simp [callSignature]

/-! Types -/

@[simp] theorem peeks_modifiesProperty : Peeks modifiesProperty := by
  simp [modifiesProperty]

@[simp] theorem reads_memberModifier (words : List String) : Reads (memberModifier words) := by
  unfold memberModifier
  refine peeks_upcomingName.bind fun word => ?_
  simp

@[simp] theorem reads_indexSignature (lineEnds : Bool) : Reads (indexSignature g lineEnds) := by
  unfold indexSignature
  refine Reads.bind (reads_all (by simp)) fun lead => peeks_afterName.bind fun next => ?_
  refine Reads.bind ?_ fun key => Reads.bind (by simp) fun close => peeks_upcoming.bind fun text => ?_
  · exact Continues.ite (by simp) (Continues.ite (reads_wrapped_all (by simp)) (by simp))
  · simp

@[simp] theorem peeks_indexAhead : Peeks indexAhead := by
  unfold indexAhead
  refine peeks_upcoming.bind fun text => ?_
  dsimp only
  split
  · split <;> simp
  · simp

@[simp] theorem peeks_constructAhead : Peeks constructAhead := by
  unfold constructAhead
  refine peeks_upcomingName.bind fun word => peeks_afterName.bind fun after => ?_
  simp

@[simp] theorem reads_typeMember : Reads (typeMember g) := by
  unfold typeMember
  refine peeks_upcoming.bind fun text => Continues.ite (by simp) ?_
  refine peeks_constructAhead.bind fun constructs => Continues.ite (by simp) ?_
  refine peeks_indexAhead.bind fun indexes => Continues.ite (by simp) ?_
  refine Reads.bind (by simp) fun lead => peeks_upcoming.bind fun text => ?_
  simp

@[simp] theorem reads_typeMembers : Reads (typeMembers g) := by
  refine Reads.all_cons (by simp) (Reads.all_cons (Reads.many ?_) (by simp))
  refine peeks_comesNext.bind fun closes => ?_
  simp

@[simp] theorem reads_objectType (kind : String) : Reads (objectType g kind) := by
  simp [objectType]

@[simp] theorem reads_tupleMember : Reads (tupleMember g) := by
  unfold tupleMember
  refine peeks_comesNext.bind fun spreads => Continues.ite (peeks_upcoming.bind fun text => ?_) ?_
  · split <;> simp
  · refine peeks_afterName.bind fun after => Continues.ite (by simp) (Continues.ite (by simp) ?_)
    refine Reads.bind (by simp) fun type => ?_
    simp

@[simp] theorem reads_tupleType : Reads (tupleType g) := by
  simp [tupleType]

@[simp] theorem Reads.templateOf {inner : Parser Forest} (reads : Reads inner) (kind substitution : String) :
    Reads (templateOf kind substitution inner) := by
  unfold TypeScript.templateOf
  extract_lets text hole close
  have reads_text : Reads text := by
    refine peeks_get.bind fun cursor => ?_
    split <;> simp
  have reads_hole : Reads hole := by
    refine peeks_get.bind fun cursor => ?_
    split
    · refine Continues.bind (continues_leaf _ _ _ _) fun lead => ?_
      simp [reads]
    · simp
  have reads_close : Reads close := by
    refine peeks_get.bind fun cursor => ?_
    split <;> simp
  apply reads_wrapped_all
  simp [reads_text, reads_hole, reads_close]

theorem continues_qualify (fuel : Nat) (found : Forest) : Continues found (typeReference.qualify fuel found) id := by
  induction fuel generalizing found with
  | zero => simp [typeReference.qualify]
  | succ fuel ih =>
    unfold typeReference.qualify
    refine peeks_upcomingOperator.bind fun op => Continues.ite ?_ (by simp)
    refine Reads.bind (by simp) fun dot => Reads.bind (by simp) fun last => ?_
    extract_lets owner
    have same (next : Nat → Prop) : Row next owner = Row next found := by
      apply row_map
      intro n
      -- a name that was qualified before is renamed together with its two parts
      simp only [Node.sameExtent_ite, Node.SameExtent.refl, sameExtent_withKind, implies_true, true_and]
      cases n
      exact fun _ _ => ⟨rfl, rfl, fun next => row_map (by simp) next _⟩
    exact (ih _).respell (by simp [same])

@[simp] theorem reads_typeReference : Reads (typeReference g) := by
  unfold typeReference
  refine Reads.bind (by simp) fun first => peeks_get.bind fun cursor => ?_
  refine (continues_qualify cursor.room first).bind fun reference => peeks_upcomingOperator.bind fun op => ?_
  simp

theorem continues_extend (fuel : Nat) (found : Forest) : Continues found (typeQuery.extend fuel found) id := by
  induction fuel generalizing found with
  | zero => simp [typeQuery.extend]
  | succ fuel ih =>
    unfold typeQuery.extend
    refine peeks_upcomingOperator.bind fun op => Continues.ite ?_ (by simp)
    refine Reads.bind (by simp) fun dot => Reads.bind (by simp) fun property => ?_
    exact (ih _).respell (by simp)

@[simp] theorem reads_typeQuery : Reads (typeQuery g) := by
  unfold typeQuery
  refine Reads.bind (by simp) fun start => peeks_upcomingName.bind fun word => ?_
  refine Reads.bind (by simp) fun first => peeks_get.bind fun cursor => ?_
  refine ((continues_extend cursor.room first).behind start).bind fun target => ?_
  refine peeks_upcomingOperator.bind fun op => peeks_onNewLine.bind fun breaks => ?_
  simp

@[simp] theorem reads_importType : Reads (importType g) := by
  unfold importType
  refine Reads.bind (by simp) fun call => peeks_get.bind fun cursor => ?_
  refine ((continues_memberChain cursor.room _).respell ?_).bind fun reference => ?_
  · simp
  · refine peeks_upcomingOperator.bind fun op => ?_
    simp

theorem continues_typeSuffix (lineEnds : Bool) (fuel : Nat) (type : Forest) :
    Continues type (typeSuffix g lineEnds fuel type) id := by
  induction fuel generalizing type with
  | zero => simp [typeSuffix]
  | succ fuel ih =>
    unfold typeSuffix
    refine peeks_comesNext.bind fun opens => peeks_onNewLine.bind fun breaks => Continues.ite ?_ (by simp)
    refine Reads.bind (by simp) fun lead => peeks_comesNext.bind fun closes => ?_
    split <;> exact Reads.bind (by simp) fun rest => (ih _).respell (by simp)

@[simp] theorem peeks_functionTypeAhead : Peeks functionTypeAhead := by
  unfold functionTypeAhead
  refine peeks_upcoming.bind fun text => ?_
  split <;> simp

@[simp] theorem reads_functionResult (lineEnds : Bool) : Reads (functionResult g lineEnds) := by
  unfold functionResult
  refine peeks_assertionAhead.bind fun asserts => ?_
  simp

@[simp] theorem reads_functionType (lineEnds : Bool) : Reads (functionType g lineEnds) := by
  simp [functionType]

@[simp] theorem reads_constructorType (lineEnds : Bool) : Reads (constructorType g lineEnds) := by
  simp [constructorType]

theorem reads_operandType (lineEnds : Bool) (depth : Nat) : Reads (operandType g lineEnds depth) := by
  induction depth with
  | zero => simp [operandType]
  | succ depth ih =>
    unfold operandType
    extract_lets literal suffixed
    have reads_suffixed {p : Parser Forest} (reads : Reads p) : Reads (suffixed p) := by
      refine reads.bind fun type => peeks_get.bind fun cursor => ?_
      exact continues_typeSuffix lineEnds cursor.room type
    refine peeks_functionTypeAhead.bind fun isFunction => Continues.ite (by simp) ?_
    refine peeks_upcoming.bind fun text => ?_
    -- what begins with a mark of its own may have suffixes, a question mark apart; words are told one by one
    split
    case h_10 => simp [ih]
    case h_11 =>
      refine Continues.ite (reads_suffixed (by simp [literal])) (peeks_upcomingName.bind fun word => ?_)
      refine Continues.ite (by simp) (Continues.ite (by simp [ih]) (Continues.ite (reads_suffixed (by simp)) ?_))
      refine peeks_afterName.bind fun after => Continues.ite (by simp) (Continues.ite ?_ ?_)
      · apply reads_wrapped_all
        simp [ih]
      · refine peeks_afterName.bind fun after => ?_
        simp [reads_suffixed, literal]
    case h_12 => simp
    all_goals exact reads_suffixed (by simp [literal])

theorem continues_combinedMore {kind operator : String} {operand : Parser Forest} {alone : Parser Bool}
    (reads : Reads operand) (peeks : Peeks alone) (fuel : Nat) (found : Forest) :
    Continues found (combinedType.more kind operator operand alone fuel found) id := by
  induction fuel generalizing found with
  | zero => simp [combinedType.more]
  | succ fuel ih =>
    unfold combinedType.more
    refine peeks.bind fun follows => Continues.ite (Reads.bind (by simp [reads]) fun rest => ?_) (by simp)
    exact (ih _).respell (by simp)

theorem Reads.combinedType {operand : Parser Forest} (reads : Reads operand) (kind operator : String) :
    Reads (combinedType kind operator operand) := by
  unfold TypeScript.combinedType
  extract_lets alone
  have peeks : Peeks alone := by simp [alone]
  refine Reads.bind ?_ fun first => peeks_get.bind fun cursor => ?_
  · refine peeks.bind fun leads => ?_
    simp [reads]
  · exact continues_combinedMore reads peeks cursor.room first

@[simp] theorem reads_unionType (lineEnds : Bool) : Reads (unionType g lineEnds) := by
  unfold unionType
  refine peeks_get.bind fun cursor => ?_
  exact ((reads_operandType lineEnds cursor.room).combinedType _ _).combinedType _ _

theorem reads_anyType (lineEnds : Bool) : Reads (anyType g lineEnds) := by
  unfold anyType
  refine Reads.bind (by simp) fun left => peeks_upcomingName.bind fun word => peeks_onNewLine.bind fun breaks => ?_
  simp

end HouseStyle.TypeScript
