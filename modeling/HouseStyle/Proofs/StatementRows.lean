import HouseStyle.Proofs.ExpressionRows
import HouseStyle.TypeScript.Program

/-! The rules for statements and declarations read rows.

This ties the rules together: by induction on the depth to which they call each other, the grammar as a whole reads
rows. So the nodes of every tree that was read from a text stand in rows.
-/

set_option autoImplicit false
namespace HouseStyle
namespace TypeScript

variable {g : Grammar} [g.InRows]

/-! Statements -/

@[simp] theorem Reads.ended {p : Parser Forest} (reads : Reads p) : Reads (ended p) := by
  unfold TypeScript.ended
  exact reads.bind fun forest => by simp

@[simp] theorem reads_expressionStatement : Reads (expressionStatement g) := by
  simp [expressionStatement]

theorem continues_declarator (mode : Mode) : Continues [] (declarator g mode) Prod.fst := by
  unfold declarator
  refine Reads.bind (by simp) fun name => Reads.bind (by simp) fun certain => ?_
  refine Reads.bind (by simp) fun type => Reads.bind (by simp) fun value => ?_
  simp

theorem continues_declarators (mode : Mode) (fuel : Nat) (found : Forest × LineContext) :
    Continues found.1 (declarators g mode fuel found) Prod.fst := by
  induction fuel generalizing found with
  | zero => simp [declarators]
  | succ fuel ih =>
    obtain ⟨forest, context⟩ := found
    unfold declarators
    refine peeks_comesNext.bind fun more => Continues.ite (Reads.bind (by simp) fun comma => ?_) (by simp)
    exact ((continues_declarator mode).after _).bind fun (next, context) => ih (forest ++ comma ++ next, context)

@[simp] theorem reads_bindings (word : String) (mode : Mode) : Reads (bindings g word mode) := by
  unfold bindings
  refine Reads.bind (by simp) fun lead => ((continues_declarator mode).after lead).bind fun first => ?_
  refine peeks_get.bind fun cursor => ?_
  refine ((continues_declarators mode cursor.room first).behind lead).bind fun (found, context) => ?_
  refine Reads.bind (by simp) fun stop => ?_
  simp

@[simp] theorem peeks_letDeclares : Peeks letDeclares := by
  unfold letDeclares
  refine peeks_afterName.bind fun text => ?_
  split <;> simp

@[simp] theorem reads_ifStatement : Reads (ifStatement g) := by
  apply reads_wrapped_all
  simp

@[simp] theorem reads_whileStatement : Reads (whileStatement g) := by
  simp [whileStatement]

@[simp] theorem reads_doStatement : Reads (doStatement g) := by
  simp [doStatement]

@[simp] theorem reads_emptyStatement : Reads emptyStatement := by
  simp [emptyStatement]

theorem reads_countedHeader : Reads (countedHeader g) := by
  refine Reads.all_cons (by simp) (Reads.all_cons (continues_labelled.mpr ?_) (reads_all (by simp)))
  refine peeks_upcomingName.bind fun word => peeks_comesNext.bind fun isEmpty => Continues.ite (by simp) ?_
  simp

theorem reads_runningHeader : Reads (runningHeader g) := by
  refine Reads.all_cons (by simp) (Reads.all_cons ?_ (by simp))
  refine peeks_upcomingName.bind fun word => peeks_letDeclares.bind fun declares => ?_
  simp

@[simp] theorem reads_forStatement : Reads (forStatement g) := by
  unfold forStatement
  refine Reads.bind (by simp) fun lead => Reads.bind (by simp) fun awaits => ?_
  extract_lets running counted
  have reads_running : Continues (lead ++ awaits) running id := by
    refine Reads.bind (by simp [reads_runningHeader]) fun rest => by simp
  have reads_counted : Continues lead counted id := by
    refine Reads.bind (by simp [reads_countedHeader]) fun rest => by simp
  -- where nothing awaits, the row before the counted header is the keyword alone
  split <;> simp_all

@[simp] theorem reads_switchCase : Reads (switchCase g) := by
  unfold switchCase
  refine peeks_upcomingName.bind fun word => ?_
  extract_lets consequence
  have reads_consequence : Reads consequence := by
    refine continues_labelled.mpr (Reads.many (peeks_upcoming.bind fun text => peeks_upcomingName.bind fun next => ?_))
    simp
  simp [reads_consequence]

@[simp] theorem reads_switchStatement : Reads (switchStatement g) := by
  apply reads_wrapped_all
  simp

@[simp] theorem Reads.leaving {operand : Parser Forest} (reads : Reads operand) (kind word : String) :
    Reads (leaving kind word operand) := by
  simp [TypeScript.leaving, reads]

@[simp] theorem reads_tryStatement : Reads (tryStatement g) := by
  unfold tryStatement
  extract_lets caught always
  have reads_caught : Reads caught := by
    refine peeks_upcomingName.bind fun word => Continues.ite (continues_labelled.mpr ?_) (by simp)
    apply reads_wrapped_all
    simp
  have reads_always : Reads always := by
    refine peeks_upcomingName.bind fun word => ?_
    simp
  simp [reads_caught, reads_always]

theorem reads_wordStatement {word : String} {statement : Parser Forest}
    (begins : wordStatement g word = some statement) : Reads statement := by
  unfold wordStatement at begins
  split at begins <;> cases begins <;> simp

@[simp] theorem reads_labeledStatement : Reads (labeledStatement g) := by
  simp [labeledStatement]

/-! Declarations -/

@[simp] theorem reads_interfaceDeclaration : Reads (interfaceDeclaration g) := by
  have extended : Reads (commaList1 (labelled "type" (typeReference g))) := by simp
  apply reads_wrapped_all
  simp [extended]

@[simp] theorem reads_enumMember : Reads (enumMember g) := by
  unfold enumMember
  refine Reads.bind (by simp) fun name => Reads.bind (by simp) fun value => ?_
  split <;> simp_all

@[simp] theorem reads_enumDeclaration : Reads (enumDeclaration g) := by
  apply reads_wrapped_all
  simp

@[simp] theorem reads_typeAlias : Reads (typeAlias g) := by
  simp [typeAlias]

theorem continues_dottedMore (fuel : Nat) (found : Forest) : Continues found (dottedName.more fuel found) id := by
  induction fuel generalizing found with
  | zero => simp [dottedName.more]
  | succ fuel ih =>
    unfold dottedName.more
    refine peeks_comesNext.bind fun dotted => Continues.ite (Reads.bind (by simp) fun rest => ?_) (by simp)
    exact (ih _).respell (by simp)

@[simp] theorem reads_dottedName : Reads dottedName := by
  unfold dottedName
  refine Reads.bind (by simp) fun first => peeks_get.bind fun cursor => ?_
  exact continues_dottedMore cursor.room first

@[simp] theorem reads_moduleRest : Reads (moduleRest g) := by
  simp [moduleRest]

@[simp] theorem reads_moduleDeclaration : Reads (moduleDeclaration g) := by
  simp [moduleDeclaration]

@[simp] theorem reads_internalModule : Reads (internalModule g) := by
  simp [internalModule]

@[simp] theorem reads_functionDeclaration : Reads (functionDeclaration g) := by
  unfold functionDeclaration
  refine Reads.bind (by simp) fun lead => Reads.bind (by simp) fun star => Reads.bind (by simp) fun head => ?_
  refine peeks_comesNext.bind fun opens => Continues.ite (Reads.bind (by simp) fun rest => by simp) ?_
  split <;> simp_all

@[simp] theorem peeks_nameFollows : Peeks nameFollows := by
  simp [nameFollows]

@[simp] theorem peeks_functionUnnamed : Peeks functionUnnamed := by
  simp [functionUnnamed]

theorem Reads.plainDeclaration {ambient : Parser Forest} (reads : Reads ambient) :
    Reads (plainDeclaration g ambient) := by
  unfold TypeScript.plainDeclaration
  refine peeks_afterName.bind fun after => peeks_upcomingName.bind fun word => ?_
  split <;> simp [reads]

theorem Reads.declaration {ambient : Parser Forest} (reads : Reads ambient) (marks : Forest) :
    Continues marks (declaration g marks ambient) id := by
  unfold TypeScript.declaration
  refine peeks_upcomingName.bind fun word => peeks_classNamed.bind fun named => Continues.ite (by simp) ?_
  refine peeks_afterName.bind fun after => Continues.ite (by simp) (Continues.ite (by simp) ?_)
  exact reads.plainDeclaration.bind fun found => by simp

theorem reads_ambientDeclaration (depth : Nat) : Reads (ambientDeclaration g depth) := by
  induction depth with
  | zero => simp [ambientDeclaration]
  | succ depth ih =>
    unfold ambientDeclaration
    refine continues_wrapped.mpr (Reads.all_cons (by simp) (Reads.all_cons ?_ (by simp)))
    refine peeks_upcomingName.bind fun word => peeks_afterName.bind fun after => ?_
    exact Continues.ite (by simp) (ih.declaration [])

@[simp] theorem continues_anyDeclaration (marks : Forest) : Continues marks (anyDeclaration g marks) id := by
  unfold anyDeclaration
  exact peeks_get.bind fun cursor => (reads_ambientDeclaration cursor.room).declaration marks

@[simp] theorem reads_fromClause : Reads fromClause := by
  simp [fromClause]

@[simp] theorem reads_importAttribute : Reads (importAttribute g) := by
  unfold importAttribute
  refine peeks_upcomingName.bind fun word => peeks_afterName.bind fun after => ?_
  simp

@[simp] theorem reads_exportedName : Reads exportedName := by
  simp [exportedName]

@[simp] theorem reads_specifier (kind : String) : Reads (specifier kind) := by
  unfold specifier
  refine peeks_afterName.bind fun after => peeks_upcomingName.bind fun word => ?_
  apply reads_wrapped_all
  simp

@[simp] theorem reads_namedImports : Reads namedImports := by
  simp [namedImports]

@[simp] theorem reads_namespaceImport : Reads namespaceImport := by
  simp [namespaceImport]

@[simp] theorem reads_importClause : Reads importClause := by
  unfold importClause
  refine peeks_upcoming.bind fun text => ?_
  split
  · simp
  · simp
  · refine continues_wrapped.mpr (Reads.all_cons (by simp) (Reads.all_cons ?_ (by simp)))
    refine peeks_comesNext.bind fun more => ?_
    simp

theorem continues_importEquals (lead : Forest) : Continues lead (importEquals lead) id := by
  unfold importEquals
  refine Reads.bind (by simp) fun target => Reads.bind (by simp) fun sign => ?_
  refine peeks_upcomingName.bind fun word => peeks_afterName.bind fun after => Continues.ite ?_ (by simp)
  refine Reads.bind (by simp) fun source => by simp

@[simp] theorem reads_importStatement : Reads (importStatement g) := by
  unfold importStatement
  refine Reads.bind (by simp) fun lead => peeks_upcoming.bind fun text => Continues.ite (by simp) ?_
  refine peeks_upcomingName.bind fun word => peeks_afterName.bind fun after => ?_
  refine Reads.bind (by simp) fun typed => peeks_afterName.bind fun next => Continues.ite ?_ (by simp)
  exact continues_importEquals _

@[simp] theorem reads_exportClause : Reads exportClause := by
  simp [exportClause]

@[simp] theorem reads_optionalSource : Reads (optionalSource g) := by
  simp [optionalSource]

@[simp] theorem reads_exportDefault : Reads (exportDefault g) := by
  unfold exportDefault
  refine Reads.bind (by simp) fun lead => peeks_upcomingName.bind fun word => ?_
  extract_lets declared value
  have reads_declared : Reads declared := Reads.bind (by simp) fun marks => by simp
  have reads_value : Reads value := by simp [value]
  refine peeks_comesNext.bind fun decorated => ?_
  simp [reads_declared, reads_value]

theorem continues_exportStatement (marks : Forest) : Continues marks (exportStatement g marks) id := by
  unfold exportStatement
  refine Reads.bind (by simp) fun found => peeks_upcomingName.bind fun word => peeks_afterName.bind fun after => ?_
  refine Reads.bind (peeks_comesNext.bind fun star => Continues.ite ?_ ?_) fun rest => by simp
  · refine peeks_upcoming.bind fun text => ?_
    simp
  · refine peeks_comesNext.bind fun list => Continues.ite (by simp) (peeks_comesNext.bind fun assigns => ?_)
    simp

@[simp] theorem reads_namespaceStatement : Reads (namespaceStatement g) := by
  unfold namespaceStatement
  refine Reads.bind (by simp) fun found => Continues.either ?_ (by simp)
  simp

@[simp] theorem reads_decorated : Reads (decorated g) := by
  unfold decorated
  refine Reads.bind (by simp) fun marks => peeks_upcomingName.bind fun word => ?_
  refine Continues.ite (continues_exportStatement marks) (Continues.either (by simp) ?_)
  exact (continues_classExpression marks).bind fun value => by simp

theorem reads_anyStatement : Reads (anyStatement g) := by
  unfold anyStatement
  refine peeks_upcoming.bind fun text => ?_
  split
  · simp
  · simp
  · simp
  · refine peeks_upcomingName.bind fun word => peeks_afterName.bind fun after => Continues.ite (by simp) ?_
    split
    · next statement begins => exact reads_wordStatement begins
    · refine Continues.ite (continues_exportStatement []) (Continues.ite (by simp) (Continues.ite (by simp) ?_))
      refine peeks_nameFollows.bind fun follows => ?_
      simp

/-! Programs -/

theorem reads_read (markup : Bool) (depth : Nat) (goal : Goal) : Reads (read markup depth goal) := by
  induction depth generalizing goal with
  | zero =>
    intro place cursor after found row ran
    cases ran
  | succ depth ih =>
    -- the rules call upon what is read one level further down
    have : Grammar.InRows ⟨read markup depth, markup⟩ := ⟨ih⟩
    unfold read
    cases goal with
    | statement => exact reads_anyStatement
    | expression mode => exact reads_anyExpression mode
    | operand calls => exact reads_operand {} calls
    | type lineEnds => exact reads_anyType lineEnds

instance (markup : Bool) (depth : Nat) : Grammar.InRows ⟨read markup depth, markup⟩ := ⟨reads_read markup depth⟩

@[simp] theorem reads_interpreterLine : Reads interpreterLine := by
  unfold interpreterLine
  refine peeks_get.bind fun cursor => ?_
  split <;> simp

theorem reads_program : Reads (program g) := by
  unfold program
  refine Reads.bind (by simp) fun first => Reads.bind (by simp) fun found => Reads.bind (by simp) fun last => ?_
  refine peeks_get.bind fun cursor => ?_
  simp

end TypeScript

/-- All nodes below the root stand in rows, the outermost one beginning with the root. -/
def Tree.InRows (t : Tree) : Prop := ∃ last, Row (· ≤ last) t.root.children t.root.start

theorem TypeScript.inRows_of_parse {dialect : Dialect} {source : String} {t : Tree}
    (parsed : parse dialect source = some t) : t.InRows := by
  rw [parse] at parsed
  split at parsed
  · cases parsed
  · next children after ran =>
    have row := reads_program 0 _ after children (by simp) ran
    cases parsed
    -- numbering moves no node
    rw [Tree.InRows, Node.start, (Node.sameExtent_number _ 0).start]
    simp only [(Node.sameExtent_number _ 0).inside]
    cases children with
    | nil => exact ⟨Text.byteLength source.toList, by simp [Node.children, Node.info]⟩
    | cons n rest => exact ⟨after.offset, (row_iff_start.mp row).2⟩

end HouseStyle
