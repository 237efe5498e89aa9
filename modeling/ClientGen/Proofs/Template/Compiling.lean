import ClientGen.Proofs.Result
import ClientGen.Template.Compilation

/-!
# Compilation step by step

Rules for the statements and expressions that the templates of a client are made of. Each rule
compiles one construct whose parts have been compiled, in surroundings that neither escape text nor
know of a template that takes over.
-/

namespace ClientGen.Template

namespace Compilation

variable {frame : Frame}

/-! ## Expressions -/

/-- An expression is compiled to a formula, and nothing is noted on the way. -/
def Computes (frame : Frame) (expression : Expression) (formula : Formula) : Prop :=
  formulaOf frame expression = pure formula

theorem Computes.name {word : String} {slot : Slot} (known : frame.scope.find? word = some slot) :
    Computes frame (.name word) (.name slot) := by
  have plain : literal? frame (.name word) = pure none := by
    simp [literal?, Folding.isComputed]
  have slot_eq : frame.slot word = pure slot := by
    rw [Frame.slot, known]
  rw [Computes, formulaOf, plain, pure_bind, computed, slot_eq, pure_bind]

theorem Computes.text (value : String) : Computes frame (.text value) (.text value) := by
  have plain : literal? frame (.text value) = pure none := by
    simp [literal?, Folding.isComputed]
  rw [Computes, formulaOf, plain, pure_bind, computed]

theorem markMalformed_false : markMalformed false = pure () := by
  funext state
  simp only [markMalformed, Bool.or_false]
  rfl

theorem Computes.filter {subject : Expression} {name : String}
    {arguments : List (Passing × Expression)} {formula : Formula}
    {formulas : List (Passing × Formula)}
    (computed_ : literal? frame (.filter subject name arguments) = pure none)
    (known : frame.filters.contains name = true)
    (distinct : repeatsName (passedNames arguments) = false)
    (inner : Computes frame subject formula)
    (further : argumentFormulas frame arguments = pure formulas) :
    Computes frame (.filter subject name arguments) (.filter formula name formulas) := by
  have checked : checkFilter frame name = pure () := by
    rw [checkFilter, known, Bool.or_true, if_pos rfl]
  rw [Computes] at inner
  rw [Computes, formulaOf, computed_, pure_bind, computed, checked, pure_bind, inner, pure_bind,
    distinct, markMalformed_false, pure_bind, further, pure_bind]

theorem Computes.not {operand : Expression} {formula : Formula}
    (computed_ : literal? frame (.not operand) = pure none)
    (inner : Computes frame operand formula) : Computes frame (.not operand) (.not formula) := by
  rw [Computes] at inner
  rw [Computes, formulaOf, computed_, pure_bind, computed, inner, pure_bind]

theorem Computes.test {subject : Expression} {name : String} {formula : Formula}
    (computed_ : literal? frame (.test subject name []) = pure none)
    (known : Run.testNames.contains name = true) (inner : Computes frame subject formula) :
    Computes frame (.test subject name []) (.test formula name []) := by
  have checked : checkTest frame name = pure () := by
    rw [checkTest, known, Bool.or_true, if_pos rfl]
  have distinct : repeatsName (passedNames []) = false := rfl
  rw [Computes] at inner
  rw [Computes, formulaOf, computed_, pure_bind, computed, checked, pure_bind, inner, pure_bind,
    distinct, markMalformed_false, pure_bind, argumentFormulas, pure_bind]

theorem argumentFormulas_nil : argumentFormulas frame [] = pure [] := by
  rw [argumentFormulas]

theorem argumentFormulas_one {passing : Passing} {expression : Expression} {formula : Formula}
    (first : Computes frame expression formula) :
    argumentFormulas frame [(passing, expression)] = pure [(passing, formula)] := by
  rw [Computes] at first
  rw [argumentFormulas, first, pure_bind, argumentFormulas, pure_bind]

/-! ## Statements -/

/-- Surroundings in which text is printed as it is. -/
structure Plain (frame : Frame) : Prop where
  unchecked : frame.isChecked = false
  unescaped : frame.isEscaped = false
  settled : frame.isVolatile = false

theorem Plain.soft (plain : Plain frame) : Plain frame.soft :=
  ⟨plain.unchecked, plain.unescaped, plain.settled⟩

theorem Plain.inner (plain : Plain frame) (scope : Scope) : Plain (frame.inner scope) :=
  ⟨plain.unchecked, plain.unescaped, plain.settled⟩

/-- Statements are compiled to instructions, and nothing is noted on the way. -/
def Compiles (frame : Frame) (statements : List Statement) (code : List Instruction) : Prop :=
  bodyCode frame statements = pure code

theorem Compiles.nil : Compiles frame [] [] := by
  rw [Compiles, bodyCode]

theorem Compiles.cons {statement : Statement} {instruction : Instruction}
    {rest : List Statement} {code : List Instruction}
    (first : statementCode frame statement = pure [instruction])
    (different : instruction ≠ .inheritAgain)
    (others : Compiles frame rest code) :
    Compiles frame (statement :: rest) (instruction :: code) := by
  rw [Compiles] at others ⊢
  rw [bodyCode, first, pure_bind]
  split
  · next same => exact absurd (List.singleton_inj.mp same) different
  · rw [others, pure_bind]
    rfl

theorem Compiles.text {value : String} {rest : List Statement} {code : List Instruction}
    (plain : Plain frame) (others : Compiles frame rest code) :
    Compiles frame (.text value :: rest) (.text value :: code) := by
  refine Compiles.cons ?_ nofun others
  rw [statementCode, unlessInherited, plain.unchecked]
  rfl

theorem Compiles.print {value : Expression} {formula : Formula} {rest : List Statement}
    {code : List Instruction} (plain : Plain frame)
    (variable_ : Folding.text? false false value = none) (computes : Computes frame value formula)
    (others : Compiles frame rest code) :
    Compiles frame (.print [value] :: rest) (.print .plain formula :: code) := by
  refine Compiles.cons ?_ nofun others
  have escaping : frame.escaping = .plain := by
    simp [Frame.escaping, plain.settled, plain.unescaped]
  have printed : printedValue frame value = pure (.print .plain formula) := by
    rw [Computes] at computes
    rw [printedValue, plain.settled, plain.unescaped, variable_, escaping]
    simp only [computes, pure_bind]
  rw [statementCode, unlessInherited, plain.unchecked, List.mapM_cons, printed]
  rfl

/-- A variable is printed after a text. -/
theorem Compiles.field {before word : String} {slot : Slot} {rest : List Statement}
    {code : List Instruction} (plain : Plain frame)
    (known : frame.scope.find? word = some slot) (others : Compiles frame rest code) :
    Compiles frame (.text before :: .print [.name word] :: rest)
      (.text before :: .print .plain (.name slot) :: code) :=
  Compiles.text plain (Compiles.print plain rfl (.name known) others)

theorem Compiles.branch {condition : Expression} {formula : Formula}
    {body otherwise rest : List Statement} {bodyInstructions others code : List Instruction}
    (computes : Computes frame.soft condition formula)
    (inner : Compiles frame.soft body bodyInstructions)
    (last : Compiles frame.soft otherwise others) (tail : Compiles frame rest code) :
    Compiles frame (.branch condition body [] otherwise :: rest)
      (.branch formula bodyInstructions [] others :: code) := by
  refine Compiles.cons ?_ nofun tail
  rw [Computes] at computes
  rw [Compiles] at inner last
  rw [statementCode, computes, pure_bind, inner, pure_bind, branchesCode, pure_bind, last,
    pure_bind]

/-- The scope of the body of a loop that does not use the state of the loop. -/
def turnScope (frame : Frame) (word : String) (body : List Statement) : Scope :=
  (frame.scope.inner.declare word).visitAll body

theorem Compiles.loop {word : String} {source : Expression} {formula : Formula} {slot : Slot}
    {body rest : List Statement} {bodyInstructions code : List Instruction}
    (stateless : needsState false body [] = false)
    (unassigned : ([word] ++ storedNamesAll (body ++ [])).contains "loop" = false)
    (found : (turnScope frame word body).find? word = some slot)
    (computes : Computes frame source formula)
    (inner : Compiles (frame.inner (turnScope frame word body)) body bodyInstructions)
    (tail : Compiles frame rest code) :
    Compiles frame (.loop (.name word) source none false body [] :: rest)
      (.loop ⟨.slot slot, none, none, (turnScope frame word body).level,
        (turnScope frame word body).opening, bodyInstructions, [], []⟩ formula :: code) := by
  refine Compiles.cons ?_ nofun tail
  rw [Computes] at computes
  rw [Compiles] at inner
  have goal : goalOf (frame.inner (turnScope frame word body)) (.name word) =
      pure (.slot slot) := by
    have slot_eq : (frame.inner (turnScope frame word body)).slot word = pure slot := by
      have inside : (frame.inner (turnScope frame word body)).scope.find? word = some slot := found
      rw [Frame.slot, inside]
    rw [goalOf, slot_eq, pure_bind]
  have scope_eq : (loopScope frame false (.name word)).visitAll body = turnScope frame word body :=
    rfl
  have names : Target.names (.name word) = [word] := rfl
  rw [statementCode]
  simp only [stateless, scope_eq, names, unassigned, loopCondition, pure_bind, Bool.false_eq_true,
    if_false, goal, computes, inner]
  rw [bodyCode, pure_bind]
  rfl

/-! ## Templates -/

/-- The surroundings of the statements of a template without named parts. -/
def topFrame (filters : List String) (scope : Scope) : Frame :=
  { outermostFrame filters scope with isTop := true, isRoot := true }

theorem plain_topFrame (filters : List String) (scope : Scope) : Plain (topFrame filters scope) :=
  ⟨rfl, rfl, rfl⟩

/-- A template without named parts is compiled statement by statement. -/
theorem templateCode_eq {filters : List String} {body : List Statement} {scope : Scope}
    {code : List Instruction} (partless : partsInAll body = [])
    (unnamed : (Statement.undeclaredIn ["self"] body).contains "self" = false)
    (settled : inheritsAny body = false) (scope_eq : Scope.outermost.visitAll body = scope)
    (compiles : Compiles (topFrame filters scope) body code) :
    templateCode filters body ⟨false, false, false⟩ =
      .ok (⟨none, scope.opening, code, []⟩, ⟨false, false, false⟩) := by
  have declared : declareUsed "self" body Scope.outermost = (Scope.outermost, none) := by
    rw [declareUsed, unnamed]
    rfl
  have code_eq : bodyCode { outermostFrame filters scope with
      isTop := true, isRoot := true, isChecked := false } body = pure code := compiles
  rw [templateCode, partless, declared]
  simp only [settled, scope_eq, code_eq]
  rfl

end Compilation

open Compilation in
/-- A source compiles if its pieces make up statements and these have instructions. -/
theorem compile_eq {filters : List String} {source : String} {pieces : List Piece}
    {statements : List Statement} {template : Template} {state : State}
    (divided : Piece.ofSource source.toList = .ok pieces)
    (parsed : Statement.ofPieces pieces = .ok statements)
    (coded : templateCode filters statements ⟨false, false, false⟩ = .ok (template, state)) :
    compile filters source = .ok template := by
  rw [compile, divided, ok_bind, parsed, ok_bind, coded, ok_bind]

end ClientGen.Template
