import ClientGen.Template.Rendering

/-!
# Constant expressions

An expression without variables and calls has its value before the template is rendered. Such an
expression is replaced by a literal, if there is one for its value.
-/

namespace ClientGen.Template

namespace Folding

open Datum hiding none

/-! ## Expressions without variables -/

/-- The filters whose results depend on the context. -/
def contextFilters : List String :=
  ["map", "random", "reject", "rejectattr", "select", "selectattr"]

/-- The names of the filters whose results are constant for constants. -/
def constantFilters : List String :=
  (Run.standardFilters.map (·.1)).filter fun name => !contextFilters.contains name

/-- The names of the tests that need no more than their arguments; which filters there are is known
only when a template is rendered. -/
def constantTests : List String := Run.testNames.filter (· != "filter")

mutual

/-- An expression with variables, calls and all else that is not constant left without a value. -/
def closed (isVolatile : Bool) : Expression → Formula
  | .none => .none
  | .bool b => .bool b
  | .integer n => .integer n
  | .decimal x => .decimal x
  | .text s => .text s
  | .name _ | .call .. | .unwritable => .unwritable
  | .tuple items => .tuple (closedAll isVolatile items)
  | .list items => .list (closedAll isVolatile items)
  | .map entries => .map (closedEntries isVolatile entries)
  | .member subject name => .member (closed isVolatile subject) name
  | .item subject key => .item (closed isVolatile subject) (closed isVolatile key)
  | .bounds start stop step =>
      .bounds (closedOptional isVolatile start) (closedOptional isVolatile stop)
        (closedOptional isVolatile step)
  | .filter subject name arguments =>
      if isVolatile || !constantFilters.contains name then .unwritable
      else .filter (closed isVolatile subject) name (closedArguments isVolatile arguments)
  | .test subject name arguments =>
      if isVolatile || !constantTests.contains name then .unwritable
      else .test (closed isVolatile subject) name (closedArguments isVolatile arguments)
  | .not operand => .not (closed isVolatile operand)
  | .negative operand => .negative (closed isVolatile operand)
  | .positive operand => .positive (closed isVolatile operand)
  | .binary operation left right =>
      .binary operation (closed isVolatile left) (closed isVolatile right)
  | .concat _ items => .concat false (closedAll isVolatile items)
  | .and left right => .and (closed isVolatile left) (closed isVolatile right)
  | .or left right => .or (closed isVolatile left) (closed isVolatile right)
  | .compare first rest => .compare (closed isVolatile first) (closedCompared isVolatile rest)
  | .choice condition chosen otherwise =>
      .choice (closed isVolatile condition) (closed isVolatile chosen)
        (some ((closedOptional isVolatile otherwise).getD .unwritable))

/-- Several expressions without variables. -/
def closedAll (isVolatile : Bool) : List Expression → List Formula
  | [] => []
  | expression :: rest => closed isVolatile expression :: closedAll isVolatile rest

/-- An expression that may be missing without variables. -/
def closedOptional (isVolatile : Bool) : Option Expression → Option Formula
  | none => none
  | some expression => some (closed isVolatile expression)

/-- Entries without variables. -/
def closedEntries (isVolatile : Bool) : List (Expression × Expression) → List (Formula × Formula)
  | [] => []
  | (key, value) :: rest =>
      (closed isVolatile key, closed isVolatile value) :: closedEntries isVolatile rest

/-- Arguments without variables. -/
def closedArguments (isVolatile : Bool) :
    List (Passing × Expression) → List (Passing × Formula)
  | [] => []
  | (passing, expression) :: rest =>
      (passing, closed isVolatile expression) :: closedArguments isVolatile rest

/-- Operands of comparisons without variables. -/
def closedCompared (isVolatile : Bool) :
    List (Comparison × Expression) → List (Comparison × Formula)
  | [] => []
  | (comparison, expression) :: rest =>
      (comparison, closed isVolatile expression) :: closedCompared isVolatile rest

end

/-! ## Values -/

/-- What constant expressions are evaluated with. -/
def machine : Machine := Engine.machine ⟨Run.standardFilters, []⟩ Engine.greatestDepth

/-- Do something with the value of an expression without variables. -/
def withValue {α : Type} (isVolatile isEscaped : Bool) (expression : Expression)
    (body : Datum → Run α) : Option α :=
  let store : Store := { Store.empty with isEscaping := isEscaped }
  let computation : Run α := do body (← machine.value 0 (closed isVolatile expression))
  match computation store with
  | .ok (result, _) => some result
  | .error _ => none

/-- The text of a constant expression. -/
def text? (isVolatile isEscaped : Bool) (expression : Expression) : Option String :=
  withValue isVolatile isEscaped expression (Run.printed isEscaped)

/-- Whether a constant expression counts as true. -/
def truth? (isVolatile isEscaped : Bool) (expression : Expression) : Option Bool :=
  withValue isVolatile isEscaped expression Run.isTruthy

/-! ## Literals -/

/-- The literal of an integer; none if its numeral is too long. -/
def integerLiteral? (n : Int) : Option Formula :=
  if Numeral.isWritable n then
    some (if n < 0 then .negative (.integer n.natAbs) else .integer n.natAbs)
  else none

/-- The literal of a floating-point number; there is none for one without digits. -/
def decimalLiteral (x : Double) : Formula := if x.isFinite then .decimal x else .unwritable

/-- All of some literals, unless one of them is too long. -/
def allLiterals (build : List Formula → Formula) (literals : List (Option Formula)) :
    Option Formula :=
  (literals.mapM id).map build

/-- The literal of a datum; none if a numeral in it is too long. It is an error if there is no
literal for a datum of its kind. -/
def literalFrom : (fuel : Nat) → Datum → Run (Option Formula)
  | 0, _ => Run.fault .endless
  | fuel + 1, datum => do
      match datum with
      | .none => pure (some .none)
      | .bool b => pure (some (.bool b))
      | .int n => pure (integerLiteral? n)
      | .float x => pure (some (decimalLiteral x))
      | .text s => pure (some (.text s))
      | .markup s => pure (some (.filter (.text s) "safe" []))
      | .tuple items => do
          pure (allLiterals .tuple (← items.mapM (literalFrom fuel)))
      | .list place => do
          pure (allLiterals .list (← (← Run.listAt place).toList.mapM (literalFrom fuel)))
      | .map place => do
          let found ← (← Run.entriesAt place).toList.mapM fun (key, value) => do
            let key ← literalFrom fuel key
            let value ← literalFrom fuel value
            pure (do some (← key, ← value))
          pure ((found.mapM id).map .map)
      | _ => Run.unsupported

/-- The literal of a constant expression; the inner one is missing if a numeral is too long. -/
def literal? (isEscaped : Bool) (expression : Expression) : Option (Option Formula) :=
  withValue false isEscaped expression (literalFrom Run.greatestDepth)

/-- Whether an expression is computed, so that a literal can take its place. -/
def isComputed : Expression → Bool
  | .member .. | .item .. | .filter .. | .test .. | .not _ | .negative _ | .positive _
  | .binary .. | .concat .. | .and .. | .or .. | .compare .. | .choice .. => true
  | _ => false

end Folding

end ClientGen.Template
