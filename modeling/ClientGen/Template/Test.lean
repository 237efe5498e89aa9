import ClientGen.Template.Arithmetic
import ClientGen.Text.Letter

/-!
# Tests of data

A test says whether a datum has a property, alone or together with a second datum.
-/

namespace ClientGen.Template

namespace Run

open Datum hiding none

/-! ## Names -/

/-- The tests that compare with a second datum. -/
def comparisonTests : List (String × Comparison) :=
  [("eq", .equal), ("equalto", .equal), ("==", .equal), ("ne", .different), ("!=", .different),
    ("lt", .less), ("lessthan", .less), ("<", .less), ("le", .atMost), ("<=", .atMost),
    ("gt", .greater), ("greaterthan", .greater), (">", .greater), ("ge", .atLeast),
    (">=", .atLeast), ("in", .member)]

/-- The tests of one datum alone. -/
def soleTests : List String :=
  ["boolean", "callable", "defined", "escaped", "even", "false", "filter", "float", "integer",
    "iterable", "lower", "mapping", "none", "number", "odd", "sequence", "string", "test", "true",
    "undefined", "upper"]

/-- The names of all tests. -/
def testNames : List String := soleTests ++ comparisonTests.map (·.1) ++ ["divisibleby", "sameas"]

/-! ## Kinds -/

/-- Whether a datum can be called. -/
def isCallable (datum : Datum) : Bool :=
  match datum with
  | .undefined _ | .method .. | .function _ | .type _ | .procedure _ | .joiner _ | .block ..
  | .loop _ => true
  | _ => false

/-- Whether a datum has a size and items by position or key. -/
def isSequence (datum : Datum) : Bool :=
  match datum with
  | .undefined _ | .list _ | .tuple _ | .group .. | .map _ | .range .. | .bytes _ => true
  | _ => datum.isText

/-- Whether a datum has items to go through. -/
def isIterable (datum : Datum) : Bool :=
  match datum with
  | .view .. | .set _ | .node _ | .stream _ | .loop _ | .current _ => true
  | _ => isSequence datum

/-- Whether two data are one and the same. -/
def isIdentical (left right : Datum) : Bool :=
  match left, right with
  | .int a, .int b => a == b
  | .float a, .float b => a == b
  | .tuple [], .tuple [] => true
  | .tuple _, .tuple _ | .method .. , .method .. | .view .., .view .. | .block .., .block .. => false
  | _, _ => left == right

/-- A test of the kind of a datum. -/
def kindTest? (name : String) (datum : Datum) : Option Bool :=
  match name, datum with
  | "defined", _ => some !datum.isUndefined
  | "undefined", _ => some datum.isUndefined
  | "none", .none => some true
  | "none", _ => some false
  | "boolean", .bool _ => some true
  | "boolean", _ => some false
  | "true", .bool b => some b
  | "true", _ => some false
  | "false", .bool b => some !b
  | "false", _ => some false
  | "integer", .int _ => some true
  | "integer", _ => some false
  | "float", .float _ => some true
  | "float", _ => some false
  | "number", _ => some datum.isNumber
  | "string", _ => some datum.isText
  | "mapping", .map _ => some true
  | "mapping", _ => some false
  | "sequence", _ => some (isSequence datum)
  | "iterable", _ => some (isIterable datum)
  | "callable", _ => some (isCallable datum)
  | "escaped", _ => some datum.isMarked
  | _, _ => none

/-! ## Applying tests -/

/-- Whether a datum is divisible by another one. -/
def isDivisible (datum divisor : Datum) : Run Bool := do
  same (← operate .modulo datum divisor) (.int 0)

/-- A test of one datum alone. -/
def soleTest (filterNames : List String) (name : String) (datum : Datum) : Run Bool := do
  match kindTest? name datum, name with
  | some answer, _ => pure answer
  | none, "odd" => do same (← operate .modulo datum (.int 2)) (.int 1)
  | none, "even" => isDivisible datum (.int 2)
  | none, "lower" => do
      let chars := (← text datum).toList
      pure (chars.any Text.isSmall && !chars.any fun c => Text.isCapital c || Text.isTitle c)
  | none, "upper" => do
      let chars := (← text datum).toList
      pure (chars.any Text.isCapital && !chars.any fun c => Text.isSmall c || Text.isTitle c)
  | none, "filter" => do pure ((← asKey datum).text?.any filterNames.contains)
  | none, _ => do pure ((← asKey datum).text?.any testNames.contains)

/-- A test by its name. -/
def testBy (machine : Machine) (filterNames : List String) (name : String) (datum : Datum)
    (supplied : Supplied) : Run Bool := do
  match comparisonTests.find? (·.1 == name), name with
  | some (_, comparison), _ => do
      match ← supplied.fit [(if name = "in" then "seq" else "", none)] with
      | [other] => compareBy machine comparison datum other
      | _ => unsupported
  | none, "divisibleby" => do
      match ← supplied.fit [("num", none)] with
      | [divisor] => isDivisible datum divisor
      | _ => unsupported
  | none, "sameas" => do
      match ← supplied.fit [("other", none)] with
      | [other] => pure (isIdentical datum other)
      | _ => unsupported
  | none, _ =>
      if soleTests.contains name then do
        supplied.finish
        soleTest filterNames name datum
      else fail ("there is no test " ++ name)

/-- The result of a test that is named by a datum. -/
def testNamed (machine : Machine) (filterNames : List String) (name subject : Datum)
    (supplied : Supplied) : Run Bool := do
  match (← asKey name).text? with
  | some word => testBy machine filterNames word subject supplied
  | none => fail "there is no such test"

end Run

end ClientGen.Template
