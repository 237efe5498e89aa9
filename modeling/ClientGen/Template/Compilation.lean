import ClientGen.Template.Folding

/-!
# Compilation of templates

Statements are compiled into instructions. Names turn into slots, constant expressions into
literals, and unknown filters and tests are refused, unless they stand directly under a condition,
where they may never be reached.
-/

namespace ClientGen.Template

namespace Compilation

/-! ## State -/

/-- What is known of a template so far. -/
structure State where
  /-- Whether another template certainly takes over. -/
  isSucceeded : Bool
  /-- Whether another template may take over. -/
  mayBeSucceeded : Bool
  /-- Whether the compiled form is malformed. -/
  isMalformed : Bool

/-- A step of the compilation. -/
abbrev Step (α : Type) := StateT State (Except TemplateFault) α

/-- Refuse a template. -/
def refuse {α : Type} (detail : String) : Step α := fun _ => .error (.failed detail)

/-- End a compilation with a fault. -/
def abort {α : Type} (fault : Fault) : Step α := fun _ => .error (.fault fault)

/-- Note that the compiled form is malformed. -/
def markMalformed (isMalformed : Bool) : Step Unit :=
  modify fun state => { state with isMalformed := state.isMalformed || isMalformed }

/-- The surroundings of a statement. -/
structure Frame where
  /-- The names of the filters that exist. -/
  filters : List String
  /-- The variables. -/
  scope : Scope
  /-- Whether assignments change the context. -/
  isTop : Bool
  /-- Whether no condition is around. -/
  isRoot : Bool
  /-- Whether a condition is directly around. -/
  isSoft : Bool
  /-- Whether printed text depends on what takes over. -/
  isChecked : Bool
  /-- Whether text is escaped, as far as that is known. -/
  isEscaped : Bool
  /-- Whether that is settled when the template is rendered. -/
  isVolatile : Bool

namespace Frame

/-- The surroundings in a branch or in a choice. -/
def soft (frame : Frame) : Frame := { frame with isRoot := false, isSoft := true }

/-- The surroundings in a new scope. -/
def inner (frame : Frame) (scope : Scope) : Frame :=
  { frame with scope, isTop := false, isRoot := false, isSoft := false }

/-- The surroundings in a body whose text is not printed at once. -/
def unchecked (frame : Frame) : Frame := { frame with isChecked := false }

/-- How text is escaped. -/
def escaping (frame : Frame) : Escaping :=
  if frame.isVolatile then .dynamic else if frame.isEscaped then .escaped else .plain

/-- The slot for what a body prints. -/
def printed (frame : Frame) : Slot := ⟨frame.scope.level, ""⟩

/-- The slot of a name. Each name has been found beforehand; one that has not is a fault. -/
def slot (frame : Frame) (name : String) : Step Slot :=
  match frame.scope.find? name with
  | some slot => pure slot
  | none => abort .assertion

/-- The variables that are shared with another template, if they are. -/
def shared (frame : Frame) (isSharing : Bool) : Option (List (String × Slot)) :=
  if isSharing then some frame.scope.visible else none

end Frame

/-! ## Expressions -/

/-- The words that have a meaning of their own and cannot name an argument in a plain call. -/
def reservedNames : List String :=
  ["False", "None", "True", "and", "as", "assert", "async", "await", "break", "class", "continue",
    "def", "del", "elif", "else", "except", "finally", "for", "from", "global", "if", "import",
    "in", "is", "lambda", "nonlocal", "not", "or", "pass", "raise", "return", "try", "while",
    "with", "yield"]

/-- The names that arguments are passed by. -/
def passedNames (arguments : List (Passing × Expression)) : List String :=
  arguments.filterMap fun (passing, _) => match passing with
    | .named name => some name
    | _ => none

/-- Whether a call with some argument names is malformed: a name is repeated. -/
def repeatsName (names : List String) : Bool :=
  names.eraseDups.length != names.length && !names.any reservedNames.contains

/-- Refuse an unknown filter that is not directly under a condition. -/
def checkFilter (frame : Frame) (name : String) : Step Unit :=
  if frame.isSoft || frame.filters.contains name then pure ()
  else refuse ("there is no filter " ++ name)

/-- Refuse an unknown test that is not directly under a condition. -/
def checkTest (frame : Frame) (name : String) : Step Unit :=
  if frame.isSoft || Run.testNames.contains name then pure ()
  else refuse ("there is no test " ++ name)

/-- The literal of a constant expression that is computed. -/
def literal? (frame : Frame) (expression : Expression) : Step (Option Formula) :=
  if frame.isVolatile || !Folding.isComputed expression then pure none
  else
    match Folding.literal? frame.isEscaped expression with
    | none => pure none
    | some none => abort .badValue
    | some (some formula) => pure (some formula)

mutual

/-- The formula of an expression. -/
def formulaOf (frame : Frame) (expression : Expression) : Step Formula := do
  match ← literal? frame expression with
  | some formula => pure formula
  | none => computed frame expression

/-- The formula of an expression that is not constant. -/
def computed (frame : Frame) : Expression → Step Formula
  | .none => pure .none
  | .bool b => pure (.bool b)
  | .integer n => pure (.integer n)
  | .decimal x => pure (Folding.decimalLiteral x)
  | .text s => pure (.text s)
  | .unwritable => pure .unwritable
  | .name word => do pure (.name (← frame.slot word))
  | .tuple items => do pure (.tuple (← formulasOf frame items))
  | .list items => do pure (.list (← formulasOf frame items))
  | .map entries => do pure (.map (← entryFormulas frame entries))
  | .member subject name => do pure (.member (← formulaOf frame subject) name)
  | .item subject (.bounds start stop step) => do
      let subject ← formulaOf frame subject
      let start ← optionalFormula frame start
      let stop ← optionalFormula frame stop
      pure (.item subject (.bounds start stop (← optionalFormula frame step)))
  | .item subject key => do
      let subject ← formulaOf frame subject
      pure (.item subject (← formulaOf frame key))
  | .bounds start stop step => do
      markMalformed true
      let start ← optionalFormula frame start
      let stop ← optionalFormula frame stop
      pure (.bounds start stop (← optionalFormula frame step))
  | .call subject arguments => do
      let subject ← formulaOf frame subject
      markMalformed (repeatsName (passedNames arguments))
      pure (.call subject (← argumentFormulas frame arguments))
  | .filter subject name arguments => do
      checkFilter frame name
      let subject ← formulaOf frame subject
      markMalformed (repeatsName (passedNames arguments))
      pure (.filter subject name (← argumentFormulas frame arguments))
  | .test subject name arguments => do
      checkTest frame name
      let subject ← formulaOf frame subject
      markMalformed (repeatsName (passedNames arguments))
      pure (.test subject name (← argumentFormulas frame arguments))
  | .not operand => do pure (.not (← formulaOf frame operand))
  | .negative operand => do pure (.negative (← formulaOf frame operand))
  | .positive operand => do pure (.positive (← formulaOf frame operand))
  | .binary operation left right => do
      let left ← formulaOf frame left
      pure (.binary operation left (← formulaOf frame right))
  | .concat _ items => do
      pure (.concat (frame.isEscaped && !frame.isVolatile) (← formulasOf frame items))
  | .and left right => do
      let left ← formulaOf frame left
      pure (.and left (← formulaOf frame right))
  | .or left right => do
      let left ← formulaOf frame left
      pure (.or left (← formulaOf frame right))
  | .compare first rest => do
      let first ← formulaOf frame first
      pure (.compare first (← comparedFormulas frame rest))
  | .choice condition chosen otherwise => do
      let chosen ← formulaOf frame.soft chosen
      let condition ← formulaOf frame.soft condition
      pure (.choice condition chosen (← optionalFormula frame.soft otherwise))

/-- The formulas of several expressions. -/
def formulasOf (frame : Frame) : List Expression → Step (List Formula)
  | [] => pure []
  | expression :: rest => do
      let first ← formulaOf frame expression
      pure (first :: (← formulasOf frame rest))

/-- The formula of an expression that may be missing. -/
def optionalFormula (frame : Frame) : Option Expression → Step (Option Formula)
  | none => pure none
  | some expression => do pure (some (← formulaOf frame expression))

/-- The formulas of entries. -/
def entryFormulas (frame : Frame) : List (Expression × Expression) →
    Step (List (Formula × Formula))
  | [] => pure []
  | (key, value) :: rest => do
      let key ← formulaOf frame key
      let value ← formulaOf frame value
      pure ((key, value) :: (← entryFormulas frame rest))

/-- The formulas of arguments. -/
def argumentFormulas (frame : Frame) : List (Passing × Expression) →
    Step (List (Passing × Formula))
  | [] => pure []
  | (passing, expression) :: rest => do
      let first ← formulaOf frame expression
      pure ((passing, first) :: (← argumentFormulas frame rest))

/-- The formulas of the further operands of comparisons. -/
def comparedFormulas (frame : Frame) : List (Comparison × Expression) →
    Step (List (Comparison × Formula))
  | [] => pure []
  | (comparison, expression) :: rest => do
      let first ← formulaOf frame expression
      pure ((comparison, first) :: (← comparedFormulas frame rest))

end

/-- The formula of filters over the text that a body has printed. -/
def refinement (frame : Frame) : Formula → List FilterUse → Step Formula
  | subject, [] => pure subject
  | subject, filter :: rest => do
      checkFilter frame filter.name
      markMalformed (repeatsName (passedNames filter.arguments))
      let arguments ← argumentFormulas frame filter.arguments
      refinement frame (.filter subject filter.name arguments) rest

/-! ## Targets -/

mutual

/-- The goal of a target. -/
def goalOf (frame : Frame) : Target → Step Goal
  | .name word => do pure (.slot (← frame.slot word))
  | .member space name => do pure (.member (← frame.slot space) name)
  | .tuple items => do pure (.tuple (← goalsOf frame items))

/-- The goals of several targets. -/
def goalsOf (frame : Frame) : List Target → Step (List Goal)
  | [] => pure []
  | target :: rest => do
      let first ← goalOf frame target
      pure (first :: (← goalsOf frame rest))

end

/-- The slots of the variables that an assignment keeps in the context. -/
def keptSlots (frame : Frame) (target : Target) : Step (List Slot) :=
  if frame.isTop then (Target.names target).eraseDups.mapM frame.slot else pure []

/-! ## Named parts -/

mutual

/-- The named parts in a statement, in order. -/
def partsIn : Statement → List (String × Bool × List Statement)
  | .block name isScoped _ body => (name, isScoped, body) :: partsInAll body
  | .branch _ body further otherwise =>
      partsInAll body ++ partsInBranches further ++ partsInAll otherwise
  | .loop _ _ _ _ body otherwise => partsInAll body ++ partsInAll otherwise
  | .capture _ _ body | .filtered _ body | .procedure _ _ body | .callWith _ _ body
  | .scope _ body | .escape _ body => partsInAll body
  | _ => []

/-- The named parts in a body. -/
def partsInAll : List Statement → List (String × Bool × List Statement)
  | [] => []
  | statement :: rest => partsIn statement ++ partsInAll rest

/-- The named parts in branches. -/
def partsInBranches : List (Expression × List Statement) →
    List (String × Bool × List Statement)
  | [] => []
  | (_, body) :: rest => partsInAll body ++ partsInBranches rest

end

mutual

/-- Whether a statement has another template take over. -/
def inherits : Statement → Bool
  | .inherit _ => true
  | .branch _ body further otherwise =>
      inheritsAny body || inheritsInBranches further || inheritsAny otherwise
  | .loop _ _ _ _ body otherwise => inheritsAny body || inheritsAny otherwise
  | .capture _ _ body | .filtered _ body | .procedure _ _ body | .callWith _ _ body
  | .scope _ body | .escape _ body | .block _ _ _ body => inheritsAny body
  | _ => false

/-- Whether a body has another template take over. -/
def inheritsAny : List Statement → Bool
  | [] => false
  | statement :: rest => inherits statement || inheritsAny rest

/-- Whether branches have another template take over. -/
def inheritsInBranches : List (Expression × List Statement) → Bool
  | [] => false
  | (_, body) :: rest => inheritsAny body || inheritsInBranches rest

end

/-! ## Statements -/

/-- The instruction that prints a value. -/
def printedValue (frame : Frame) (value : Expression) : Step Instruction := do
  match Folding.text? frame.isVolatile frame.isEscaped value with
  | some text => pure (.text text)
  | none => do pure (.print frame.escaping (← formulaOf frame value))

/-- Instructions for text, which is not printed if another template takes over. -/
def unlessInherited (frame : Frame) (body : Step (List Instruction)) :
    Step (List Instruction) := do
  if !frame.isChecked then body
  else if (← get).isSucceeded then pure []
  else do pure [.unlessInherited (← body)]

/-- The parameters of a procedure in its own scope. -/
def receiversOf (frame : Frame) : List Parameter → Step (List Receiver)
  | [] => pure []
  | parameter :: rest => do
      let default ← optionalFormula frame parameter.default
      let slot ← frame.slot parameter.name
      pure (⟨parameter.name, slot, default⟩ :: (← receiversOf frame rest))

/-- The scope of a procedure, and whether its body uses the body of a call, further named arguments
and further positional ones. -/
def procedureScope (frame : Frame) (parameters : List Parameter) (body : List Statement) :
    Scope × Bool × Bool × Bool :=
  let names := parameters.map (·.name)
  let used := Statement.undeclaredIn ["caller", "kwargs", "varargs"] body
  let uses (name : String) : Bool := used.contains name && !names.contains name
  let scope := frame.scope.inner.visitProcedure parameters body
  let scope := ["caller", "kwargs", "varargs"].foldl
    (fun done name => if uses name then done.declare name else done) scope
  (scope, uses "caller", uses "kwargs", uses "varargs")

/-- Whether a parameter stands for the body of a call without a default, though the body uses
it. -/
def lacksDefault (parameters : List Parameter) (body : List Statement) : Bool :=
  (Statement.undeclaredIn ["caller"] body).contains "caller" &&
    parameters.any fun parameter => parameter.name == "caller" && parameter.default.isNone

/-- Whether a loop needs its state: it can be called, its body uses the state, or there are parts
in it that see all variables. -/
def needsState (recursive : Bool) (body otherwise : List Statement) : Bool :=
  recursive || (Statement.undeclaredIn ["loop"] body).contains "loop" ||
    (partsInAll (body ++ otherwise)).any (·.2.1)

mutual

/-- The names that get values in a statement. -/
def storedNames : Statement → List String
  | .assign target _ => Target.names target
  | .capture target _ body => Target.names target ++ storedNamesAll body
  | .loop target _ _ _ body otherwise =>
      Target.names target ++ storedNamesAll body ++ storedNamesAll otherwise
  | .branch _ body further otherwise =>
      storedNamesAll body ++ storedNamesInBranches further ++ storedNamesAll otherwise
  | .filtered _ body | .procedure _ _ body | .callWith _ _ body | .scope _ body | .escape _ body
  | .block _ _ _ body => storedNamesAll body
  | _ => []

/-- The names that get values in a body. -/
def storedNamesAll : List Statement → List String
  | [] => []
  | statement :: rest => storedNames statement ++ storedNamesAll rest

/-- The names that get values in branches. -/
def storedNamesInBranches : List (Expression × List Statement) → List String
  | [] => []
  | (_, body) :: rest => storedNamesAll body ++ storedNamesInBranches rest

end

/-- The scope of a loop's body. -/
def loopScope (frame : Frame) (hasState : Bool) (target : Target) : Scope :=
  let scope := if hasState then frame.scope.inner.declare "loop" else frame.scope.inner
  (Target.names target).foldl Scope.declare scope

/-- The condition of a loop with the variables of its scope. -/
def loopCondition (frame : Frame) (target : Target) (condition : Option Expression) :
    Step (Option (Opening × Formula)) := do
  match condition with
  | none => pure none
  | some expression => do
      let scope := (loopScope frame false target).loadAll (Term.names expression)
      pure (some (scope.opening, ← formulaOf (frame.inner scope) expression))

/-- The bindings of a scope: the targets are inside of it and the values outside. -/
def bindingsOf (outer inside : Frame) : List (Target × Expression) →
    Step (List (Goal × Formula))
  | [] => pure []
  | (target, value) :: rest => do
      let goal ← goalOf inside target
      let formula ← formulaOf outer value
      pure ((goal, formula) :: (← bindingsOf outer inside rest))

mutual

/-- The instructions of a statement. -/
def statementCode (frame : Frame) : Statement → Step (List Instruction)
  | .text value => unlessInherited frame (pure [.text value])
  | .print values => unlessInherited frame (values.mapM (printedValue frame))
  | .branch condition body further otherwise => do
      let inside := frame.soft
      let condition ← formulaOf inside condition
      let body ← bodyCode inside body
      let further ← branchesCode inside further
      pure [.branch condition body further (← bodyCode inside otherwise)]
  | .loop target source condition recursive body otherwise => do
      let hasState := needsState recursive body otherwise
      let scope := (loopScope frame hasState target).visitAll body
      let otherwiseScope := frame.scope.inner.visitAll otherwise
      let inside := frame.inner scope
      let condition ← loopCondition frame target condition
      if (Target.names target ++ storedNamesAll (body ++ otherwise)).contains "loop" then
        refuse "the state of a loop cannot be assigned to"
      else
        let goal ← goalOf inside target
        let formula ← formulaOf frame source
        let state := if hasState then scope.find? "loop" else none
        let body ← bodyCode inside body
        let otherwise ← bodyCode (frame.inner otherwiseScope) otherwise
        let iteration : Iteration Instruction :=
          ⟨goal, state, condition, scope.level, scope.opening, body, otherwiseScope.opening,
            otherwise⟩
        pure [if recursive then .recursiveLoop frame.escaping iteration formula
          else .loop iteration formula]
  | .assign target value => do
      let spaces ← (Target.spaces target).eraseDups.mapM frame.slot
      let goal ← goalOf frame target
      let formula ← formulaOf frame value
      pure [.assign goal spaces formula (← keptSlots frame target)]
  | .capture target filters body => do
      let inside := (frame.inner (frame.scope.inner.visitAll body)).unchecked
      let body ← bodyCode inside body
      let goal ← goalOf frame target
      let refined ← refinement inside (.name inside.printed) filters
      let kept ← keptSlots frame target
      pure [.capture goal inside.scope.opening body inside.escaping inside.printed refined kept]
  | .procedure name parameters body => do
      let slot ← frame.slot name
      pure [.procedure (← routineCode frame (some name) parameters body) slot frame.isTop]
  | .callWith parameters (.call subject arguments) body => do
      let routine ← routineCode frame none parameters body
      let subject ← formulaOf frame subject
      markMalformed (repeatsName ("caller" :: passedNames arguments))
      pure [.callWith routine subject (← argumentFormulas frame arguments)]
  | .callWith .. => refuse "a call is expected"
  | .filtered filters body => do
      let inside := frame.inner ((frame.scope.inner.visitAll body).visitFilters filters)
      let body ← bodyCode inside body
      let refined ← refinement inside (.name inside.printed) filters
      pure [.filtered inside.scope.opening body inside.escaping inside.printed refined]
  | .block name isScoped isRequired _ => do
      let instruction := Instruction.block name isRequired (frame.shared isScoped)
      if !frame.isTop then pure [instruction]
      else if (← get).isSucceeded then pure []
      else if (← get).mayBeSucceeded then pure [.unlessInherited [instruction]]
      else pure [instruction]
  | .insert source optional sharing => do
      pure [.insert (← formulaOf frame source) optional (frame.shared sharing)]
  | .load source name sharing => do
      let formula ← formulaOf frame source
      pure [.load formula (frame.shared sharing) (← frame.slot name) frame.isTop]
  | .loadNames source names sharing => do
      let formula ← formulaOf frame source
      let slots ← names.mapM fun (name, other) => do pure (name, ← frame.slot other)
      pure [.loadNames formula (frame.shared sharing) slots frame.isTop]
  | .inherit source => do
      if !frame.isTop then refuse "another template can take over only at the outermost level"
      else if (← get).isSucceeded then pure [.inheritAgain]
      else
        let formula ← formulaOf frame source
        let isChecked := (← get).mayBeSucceeded
        modify fun state => { state with
          isSucceeded := state.isSucceeded || frame.isRoot, mayBeSucceeded := true }
        pure [.inherit formula isChecked]
  | .scope bindings body => do
      let names := bindings.flatMap fun (target, _) => Target.names target
      let scope := (names.foldl Scope.declare frame.scope.inner).visitAll body
      let inside := frame.inner scope
      let bindings ← bindingsOf frame inside bindings
      pure [.scope scope.opening bindings (← bodyCode inside body)]
  | .escape value body => do
      let scope := (frame.scope.inner.loadAll (Term.names value)).visitAll body
      let inside := frame.inner scope
      let formula ← formulaOf inside value
      let inside := match Folding.truth? inside.isVolatile inside.isEscaped value with
        | some isEscaped => { inside with isEscaped }
        | none => { inside with isVolatile := true }
      pure [.escape scope.opening formula (← bodyCode inside body)]

/-- The instructions of a body. What follows a template that takes over once more is left out. -/
def bodyCode (frame : Frame) : List Statement → Step (List Instruction)
  | [] => pure []
  | statement :: rest => do
      match ← statementCode frame statement with
      | [.inheritAgain] => pure [.inheritAgain]
      | code => do pure (code ++ (← bodyCode frame rest))

/-- The instructions of branches. -/
def branchesCode (frame : Frame) : List (Expression × List Statement) →
    Step (List (Formula × List Instruction))
  | [] => pure []
  | (condition, body) :: rest => do
      let condition ← formulaOf frame condition
      let body ← bodyCode frame body
      pure ((condition, body) :: (← branchesCode frame rest))

/-- The procedure of a body. -/
def routineCode (frame : Frame) (name : Option String) (parameters : List Parameter)
    (body : List Statement) : Step (Routine Instruction) := do
  let (scope, usesCaller, usesFurther, usesRest) := procedureScope frame parameters body
  if lacksDefault parameters body then refuse "the body of a call needs a default"
  else
    let names := parameters.map (·.name)
    markMalformed (names.eraseDups.length != names.length)
    let inside := (frame.inner scope).unchecked
    let receivers ← receiversOf inside parameters
    let slotIf (isUsed : Bool) (word : String) : Option Slot :=
      if isUsed then scope.find? word else none
    let body ← bodyCode inside body
    pure ⟨name, receivers, slotIf usesCaller "caller", slotIf usesFurther "kwargs",
      slotIf usesRest "varargs", scope.level, scope.opening, body⟩

end

/-! ## Templates -/

/-- The slot of a name that a body uses, with the scope that has it. -/
def declareUsed (name : String) (body : List Statement) (scope : Scope) :
    Scope × Option Slot :=
  if (Statement.undeclaredIn [name] body).contains name then
    let declared := scope.declare name
    (declared, declared.find? name)
  else (scope, none)

/-- The surroundings of the outermost statements. -/
def outermostFrame (filters : List String) (scope : Scope) : Frame where
  filters := filters
  scope := scope
  isTop := false
  isRoot := false
  isSoft := false
  isChecked := false
  isEscaped := false
  isVolatile := false

/-- A named part. -/
def partCode (filters : List String) (name : String) (body : List Statement) : Step Block := do
  let (scope, current) := declareUsed "self" body Scope.outermost
  let (scope, replaced) := declareUsed "super" body scope
  let scope := scope.visitAll body
  let code ← bodyCode (outermostFrame filters scope) body
  pure ⟨name, current, replaced, scope.opening, code⟩

/-- A template of statements. -/
def templateCode (filters : List String) (body : List Statement) : Step Template := do
  let parts := partsInAll body
  let names := parts.map (·.1)
  if names.eraseDups.length != names.length then refuse "two parts have the same name"
  else
    let (scope, current) := declareUsed "self" body Scope.outermost
    let scope := scope.visitAll body
    let frame := { outermostFrame filters scope with
      isTop := true, isRoot := true, isChecked := inheritsAny body }
    let code ← bodyCode frame body
    let blocks ← parts.mapM fun (name, _, part) => partCode filters name part
    if (← get).isMalformed then abort .malformed
    else pure ⟨current, scope.opening, code, blocks⟩

end Compilation

/-- The template of a source. `filters` names all filters that it can use. -/
def compile (filters : List String) (source : String) : Result Template := do
  let pieces ← Piece.ofSource source.toList
  let statements ← Statement.ofPieces pieces
  let (template, _) ← Compilation.templateCode filters statements ⟨false, false, false⟩
  .ok template

end ClientGen.Template
