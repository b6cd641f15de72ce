import DocCatalog.Script.Parse
import DocCatalog.Proofs.Script.Shape

/-!
# The shape of what the grammar reads

Every rule of the grammar gives nodes that may stand anywhere if the symbols in it do, so all symbols do
at any depth. A rule is found by what it is put together from; only a choice among words, a loop and what
binds variables take a step of their own.

* **`gives_grammar`**, **`gives_read`**: the rules of the symbols, and the symbols.
* **`isRegular_of_parse`**: every tree is regular.
-/

namespace DocCatalog.Script

open Node (IsRegular IsPlain)

namespace Rule

-- a rule with many alternatives is looked through in one search
set_option synthInstance.maxSize 4000

variable {g : Grammar} [∀ s, Gives IsPlain (g s)]

/-! ## Types

The rules stand in the order of the grammar, each behind those that it is put together from. -/

section Types

instance : Gives IsPlain (propertyName g) := by
  unfold propertyName
  refine gives_behind_test fun l => ?_
  split <;> infer_instance

instance : Gives IsPlain (initializer g) := by unfold initializer; infer_instance
instance : Gives IsPlain (optInitializer g) := by unfold optInitializer; infer_instance
instance : Gives IsPlain (pattern.element g) := by unfold pattern.element; infer_instance
instance : Gives IsPlain (pattern.field g) := by unfold pattern.field; infer_instance
instance : Gives IsPlain (pattern g) := by unfold pattern; infer_instance
instance : Gives IsPlain (annotatedType g) := by unfold annotatedType; infer_instance
instance : Gives IsPlain (result g) := by unfold result; infer_instance
instance : Gives IsPlain (returnType g) := by unfold returnType; infer_instance
instance : Gives IsPlain (typeArguments g) := by unfold typeArguments; infer_instance
instance : Gives IsPlain (typeParameter g) := by unfold typeParameter; infer_instance
instance : Gives IsPlain (typeParameters g) := by unfold typeParameters; infer_instance
instance : Keeps parameter.startsBinding := by unfold parameter.startsBinding; infer_instance

instance {decorator : Rule} [Gives IsPlain decorator] : Gives IsPlain (parameter g decorator) := by
  unfold parameter
  infer_instance

instance {n : Nat} {left : List Piece} [Piece.Are IsPlain left] :
    Gives IsPlain (decorator.loop n left) := by
  induction n generalizing left with
  | zero => unfold decorator.loop; infer_instance
  | succ n ih => unfold decorator.loop; infer_instance

instance : Gives IsPlain decorator.dotted := by unfold decorator.dotted; infer_instance
instance : Gives IsPlain (decorator.argument g) := by unfold decorator.argument; infer_instance
instance : Gives IsPlain (decorator.applied g) := by unfold decorator.applied; infer_instance

instance : Gives IsPlain (decorator.inParentheses g) := by
  unfold decorator.inParentheses
  infer_instance

instance : Gives IsPlain (decorator g) := by unfold decorator; infer_instance
instance : Gives IsPlain (parameters g) := by unfold parameters; infer_instance
instance : Gives IsPlain (signature g) := by unfold signature; infer_instance
instance : Gives IsPlain (functionType g) := by unfold functionType; infer_instance
instance : Keeps typeMember.goesOn := by unfold typeMember.goesOn; infer_instance
instance : Gives IsPlain (typeMember.indexed g) := by unfold typeMember.indexed; infer_instance
instance : Gives IsPlain (typeMember.name g) := by unfold typeMember.name; infer_instance
instance : Gives IsPlain (typeMember.rest g) := by unfold typeMember.rest; infer_instance
instance : Gives IsPlain (typeMember g) := by unfold typeMember; infer_instance
instance : Gives IsPlain objectType.separator := by unfold objectType.separator; infer_instance
instance : Gives IsPlain (objectType g) := by unfold objectType; infer_instance
instance : Keeps tupleElement.labelled := by unfold tupleElement.labelled; infer_instance
instance : Gives IsPlain (tupleElement g) := by unfold tupleElement; infer_instance

instance {hole : Rule} [Gives IsPlain hole] {n : Nat} :
    Gives IsPlain (templateLiteral.loop hole n) := by
  induction n with
  | zero => unfold templateLiteral.loop; infer_instance
  | succ n ih => unfold templateLiteral.loop; infer_instance

instance {hole : Rule} [Gives IsPlain hole] : Gives IsPlain (templateLiteral hole) := by
  unfold templateLiteral
  infer_instance

instance : Gives IsPlain (typeName g) := by unfold typeName; infer_instance
instance : Gives IsPlain (primaryType.imported g) := by unfold primaryType.imported; infer_instance
instance : Gives IsPlain (primaryType g) := by unfold primaryType; infer_instance
instance : Keeps typeOperand.indexHere := by unfold typeOperand.indexHere; infer_instance
instance : Gives IsPlain (typeOperand.brackets g) := by unfold typeOperand.brackets; infer_instance
instance : Gives IsPlain (typeOperand g) := by unfold typeOperand; infer_instance
instance : Gives IsPlain (union g) := by unfold union; infer_instance
instance : Keeps type.conditionHere := by unfold type.conditionHere; infer_instance
instance : Gives IsPlain (type g) := by unfold type; infer_instance

end Types

/-! ## Functions and classes

The members of a class have their decorators in front of them, which are read before it is known
what they belong to. -/

section Classes

instance : Gives IsPlain (block g) := by unfold block; infer_instance
instance : Keeps namesNext := by unfold namesNext; infer_instance

instance {groups : List (List String)} : Gives IsPlain (inOrder groups) := by
  induction groups with
  | nil => unfold inOrder; infer_instance
  | cons group groups ih => unfold inOrder; infer_instance

instance : Gives IsPlain methodModifiers := by unfold methodModifiers; infer_instance
instance : Gives IsPlain abstractModifiers := by unfold abstractModifiers; infer_instance
instance : Gives IsPlain fieldModifiers := by unfold fieldModifiers; infer_instance
instance : Gives IsPlain (methodRest g) := by unfold methodRest; infer_instance
instance : Gives IsPlain (objectMethod g) := by unfold objectMethod; infer_instance
instance : Gives IsPlain (staticBlock g) := by unfold staticBlock; infer_instance
instance : Gives IsPlain (indexSignature g) := by unfold indexSignature; infer_instance
instance : Gives IsPlain signatureEnd := by unfold signatureEnd; infer_instance

instance {decorators : List Piece} [Piece.Are IsPlain decorators] :
    Gives IsPlain (methodMember g decorators) := by
  unfold methodMember
  infer_instance

instance {operators : Bool} : Gives IsPlain (fieldMember.memberEnd operators) := by
  unfold fieldMember.memberEnd
  infer_instance

instance {decorators : List Piece} [Piece.Are IsPlain decorators] :
    Gives IsPlain (fieldMember g decorators) := by
  unfold fieldMember
  infer_instance

instance : Gives IsPlain (abstractMember g) := by unfold abstractMember; infer_instance
instance : Gives IsPlain (classMember g) := by unfold classMember; infer_instance
instance : Gives IsPlain (classBody g) := by unfold classBody; infer_instance
instance : Gives IsPlain (heritage g) := by unfold heritage; infer_instance
instance : Gives IsPlain (classRest g) := by unfold classRest; infer_instance
instance : Gives IsPlain (classExpression g) := by unfold classExpression; infer_instance
instance : Gives IsPlain (functionExpression g) := by unfold functionExpression; infer_instance

end Classes

/-! ## Markup

The children of an element are read in a loop, by induction on how many there may be. -/

section Markup

instance : Gives IsPlain markupName := by unfold markupName; infer_instance
instance : Gives IsPlain (markupHole g) := by unfold markupHole; infer_instance
instance : Gives IsPlain (markupAttribute g) := by unfold markupAttribute; infer_instance

instance {n : Nat} : Gives IsPlain (markupChildren.loop g n) := by
  induction n with
  | zero => unfold markupChildren.loop; infer_instance
  | succ n ih => unfold markupChildren.loop; infer_instance

instance : Gives IsPlain (markupChildren g) := by unfold markupChildren; infer_instance
instance : Gives IsPlain (markup g) := by unfold markup; infer_instance

end Markup

/-! ## Expressions

What stands behind an operand is read in a loop, and each loop takes an induction on how often it
may go on. -/

section Expressions

instance : Gives IsPlain (sequence g) := by unfold sequence; infer_instance
instance : Gives IsPlain (item g) := by unfold item; infer_instance
instance : Gives IsPlain (arguments g) := by unfold arguments; infer_instance
instance : Gives IsPlain (property.pair g) := by unfold property.pair; infer_instance
instance : Gives IsPlain (property.shorthand g) := by unfold property.shorthand; infer_instance
instance : Gives IsPlain (property g) := by unfold property; infer_instance
instance : Gives IsPlain (object g) := by unfold object; infer_instance
instance : Gives IsPlain (template g) := by unfold template; infer_instance
instance : Gives IsPlain (parenthesized g) := by unfold parenthesized; infer_instance
instance : Gives IsPlain (construct g) := by unfold construct; infer_instance

instance : Gives IsPlain (primary g) := by
  unfold primary
  refine gives_behind_test fun l => ?_
  split
  · infer_instance
  · infer_instance
  · infer_instance
  · infer_instance
  · split <;> infer_instance
  · infer_instance

instance : Gives IsPlain memberName := by unfold memberName; infer_instance
instance : Gives IsPlain (callTypeArguments g) := by unfold callTypeArguments; infer_instance

instance {calls : Bool} {n : Nat} {left : List Piece} [Piece.Are IsPlain left] :
    Gives IsPlain (postfixed.loop g calls n left) := by
  induction n generalizing left with
  | zero => unfold postfixed.loop; infer_instance
  | succ n ih => unfold postfixed.loop; infer_instance

instance {calls : Bool} {start : Rule} [Gives IsPlain start] :
    Gives IsPlain (postfixed g calls start) := by
  unfold postfixed
  infer_instance

instance : Gives IsPlain (constructor g) := by unfold constructor; infer_instance
instance : Keeps operatorHere := by unfold operatorHere; infer_instance
instance : Keeps assertionHere := by unfold assertionHere; infer_instance

instance {left : List Piece} [Piece.Are IsPlain left] : Gives IsPlain (assertion g left) := by
  unfold assertion
  infer_instance

instance {level n : Nat} {left : List Piece} [Piece.Are IsPlain left] :
    Gives IsPlain (binary.loop g level n left) := by
  induction n generalizing left with
  | zero => unfold binary.loop; infer_instance
  | succ n ih =>
      unfold binary.loop
      refine gives_behind_test fun asserts => ?_
      split
      · infer_instance
      · refine gives_behind_test fun op => ?_
        split <;> infer_instance

instance {level : Nat} : Gives IsPlain (binary g level) := by unfold binary; infer_instance

instance {n : Nat} {left : List Piece} [Piece.Are IsPlain left] :
    Gives IsPlain (unary.loop g n left) := by
  induction n generalizing left with
  | zero => unfold unary.loop; infer_instance
  | succ n ih => unfold unary.loop; infer_instance

instance : Gives IsPlain (unary.awaited g g) := by unfold unary.awaited; infer_instance
instance : Gives IsPlain (unary g) := by unfold unary; infer_instance
instance : Gives IsPlain (arrowBody g) := by unfold arrowBody; infer_instance
instance : Gives IsPlain (arrow g) := by unfold arrow; infer_instance
instance : Gives IsPlain (shortArrow g) := by unfold shortArrow; infer_instance

instance : Keeps yieldExpression.operandHere := by
  unfold yieldExpression.operandHere
  infer_instance

instance : Gives IsPlain (yieldExpression g) := by unfold yieldExpression; infer_instance
instance : Gives IsPlain (assignment g) := by unfold assignment; infer_instance
instance : Gives IsPlain (expression g) := by unfold expression; infer_instance

end Expressions

/-! ## Declarations

What binds a variable is the exception: it is regular, but may stand in a declaration of variables
only. -/

section Declarations

/-- What binds a variable is regular, but may not stand anywhere. -/
instance : Gives IsRegular (declarator g) := by unfold declarator; infer_instance

instance {kind : Kind} [Holds kind.declares] : Gives IsPlain (bindings g kind) := by
  have hhead : Gives IsRegular (take .token ++ commas (declarator g)) := inferInstance
  unfold bindings
  refine gives_behind hhead fun head hplain => ?_
  exact gives_behind (Q := IsPlain) inferInstance fun mark hmark => inferInstance

instance : Gives IsPlain functionDeclaration.signatureEnd := by
  unfold functionDeclaration.signatureEnd
  infer_instance

instance : Gives IsPlain (functionDeclaration g) := by unfold functionDeclaration; infer_instance

instance {decorators : List Piece} [Piece.Are IsPlain decorators] :
    Gives IsPlain (classDeclaration g decorators) := by
  unfold classDeclaration
  infer_instance

instance : Gives IsPlain (interfaceDeclaration g) := by unfold interfaceDeclaration; infer_instance
instance : Gives IsPlain (typeAlias g) := by unfold typeAlias; infer_instance
instance : Gives IsPlain (enumDeclaration g) := by unfold enumDeclaration; infer_instance
instance : Gives IsPlain (moduleDeclaration g) := by unfold moduleDeclaration; infer_instance
instance : Gives IsPlain stringHere := by unfold stringHere; infer_instance
instance : Gives IsPlain (importAttributes g) := by unfold importAttributes; infer_instance
instance : Gives IsPlain (fromClause g) := by unfold fromClause; infer_instance
instance : Gives IsPlain listedName := by unfold listedName; infer_instance
instance : Gives IsPlain nameList := by unfold nameList; infer_instance
instance : Keeps importStatement.typeOnly := by unfold importStatement.typeOnly; infer_instance

instance : Gives IsPlain importStatement.reference := by
  unfold importStatement.reference
  infer_instance

instance : Gives IsPlain (importStatement g) := by unfold importStatement; infer_instance

instance : Keeps declarationHere := by
  unfold declarationHere
  refine keeps_behind_test fun l => ?_
  split
  · infer_instance
  · split
    · infer_instance
    · split <;> infer_instance

instance : Gives IsPlain declaration.semicolonIfAnnounced := by
  unfold declaration.semicolonIfAnnounced
  infer_instance

instance : Gives IsPlain (declaration.ambient g) := by unfold declaration.ambient; infer_instance

instance {decorators : List Piece} [Piece.Are IsPlain decorators] :
    Gives IsPlain (declaration g decorators) := by
  unfold declaration
  refine gives_behind_test fun l => ?_
  split
  · infer_instance
  · split
    · infer_instance
    · split <;> infer_instance

instance : Gives IsPlain (exportList g) := by unfold exportList; infer_instance

instance : Gives IsPlain (exportStatement.declared g) := by
  unfold exportStatement.declared
  infer_instance

instance : Gives IsPlain (exportStatement.defaulted g) := by
  unfold exportStatement.defaulted
  infer_instance

instance : Gives IsPlain (exportStatement.exported g) := by
  unfold exportStatement.exported
  infer_instance

instance {decorators : List Piece} [Piece.Are IsPlain decorators] :
    Gives IsPlain (exportStatement g decorators) := by
  unfold exportStatement
  infer_instance

end Declarations

/-! ## Statements

A statement is told by the word it begins with, so the choice among them is taken apart word by
word. -/

section Statements

instance : Gives IsPlain (loopHead.iteration g) := by unfold loopHead.iteration; infer_instance
instance : Gives IsPlain (loopHead.counting g) := by unfold loopHead.counting; infer_instance
instance : Gives IsPlain (loopHead.start g) := by unfold loopHead.start; infer_instance
instance : Gives IsPlain (loopHead g) := by unfold loopHead; infer_instance
instance : Gives IsPlain (switchCase g) := by unfold switchCase; infer_instance
instance : Gives IsPlain (tryStatement g) := by unfold tryStatement; infer_instance
instance : Gives IsPlain (jump g) := by unfold jump; infer_instance

theorem gives_of_keywordStatement {keyword : String} {a : Rule}
    (h : keywordStatement g keyword = some a) : Gives IsPlain a := by
  unfold keywordStatement at h
  split at h <;> cases h <;> infer_instance

instance : Gives IsPlain (expressionStatement g) := by unfold expressionStatement; infer_instance

instance : Gives IsPlain (statement g) := by
  unfold statement
  refine gives_beginning (gives_behind_test fun l => ?_)
  -- a block, an empty statement or decorators
  iterate 3
    split
    · infer_instance
  split
  · refine gives_behind_test fun following => ?_
    -- a label or an export
    iterate 2
      split
      · infer_instance
    refine gives_behind_test fun calls => ?_
    split
    · infer_instance
    · split
      · next h => exact gives_of_keywordStatement h
      · infer_instance
  · infer_instance

end Statements

end Rule

/-! ## Files

The symbols are read at some depth, and each depth reads those of the one below it. A file is a row
of statements. -/

theorem gives_grammar (g : Grammar) [∀ s, Rule.Gives IsPlain (g s)] (s : Symbol) :
    Rule.Gives IsPlain (grammar g s) := by
  cases s <;> unfold grammar <;> infer_instance

/-- **All symbols** give nodes that may stand anywhere, at any depth. -/
instance gives_read (depth : Nat) (s : Symbol) : Rule.Gives IsPlain (read depth s) := by
  induction depth generalizing s with
  | zero => exact inferInstanceAs (Rule.Gives IsPlain Rule.fail)
  | succ depth ih => exact gives_grammar (read depth) s

instance : Rule.Gives IsPlain hashBang := by unfold hashBang; infer_instance

theorem isPlain_program {g : Grammar} [∀ s, Rule.Gives IsPlain (g s)] {r r' : Reader} {root : Node}
    (h : program g r = .ok (root, r')) (hr : r.IsSound) : root.IsPlain ∧ root.kind = .program := by
  obtain ⟨statements, s, hstatements, h⟩ := Rule.exists_of_bind h
  have hgives : Rule.Gives IsPlain (hashBang ++
      Rule.while_ (return (← get).current.shape != .done) (Rule.outermost (g .statement))) :=
    inferInstance
  obtain ⟨hs, hplain⟩ := hgives.gives hstatements hr
  cases h
  refine ⟨.branch fun c hc => ?_, rfl⟩
  rcases List.mem_append.mp hc with hstatement | hcomment
  · exact Piece.forall_mem_spread (fun _ hn => hn) hplain c hstatement
  · exact hs c hcomment

/-- **Every tree is regular.** -/
theorem isRegular_of_parse {dialect : Dialect} {text : String} {root : Node}
    (h : parse dialect text = .ok root) : root.IsRegular ∧ root.kind = .program := by
  unfold parse at h
  dsimp only at h
  split at h
  · next hprogram =>
      cases h
      obtain ⟨hplain, hkind⟩ := isPlain_program hprogram (Reader.isSound_jump _ _ _)
      exact ⟨hplain.regular, hkind⟩
  · cases h

end DocCatalog.Script
