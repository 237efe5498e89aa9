import ClientGen.Api.Spec
import ClientGen.Console.Data
import ClientGen.Text.Basic
import ClientGen.TypeScript.Expression

/-!
# Overviews

Tables of what a description holds: one row for each operation or definition, with type expressions
on one line and at most five properties by name.
-/

namespace ClientGen.Api

/-- What stands for nothing in a table. -/
def nothing : String := "-"

/-- The number of properties that are listed by name. -/
def listedProperties : Nat := 5

/-- A property by name, with a mark when it may be absent. -/
def propertyLabel (property : String × TypeNode) : String :=
  property.1 ++ TypeScript.optionalMark property.2.required

/-- The first properties of a node by name. -/
def propertyNames (node : TypeNode) : String :=
  let labels := node.properties.map propertyLabel
  if labels.isEmpty then nothing
  else if labels.length ≤ listedProperties then Text.joinStrings ", " labels
  else Text.joinStrings ", " (labels.take listedProperties) ++ ", ..."

/-- The type expression of a node on one line. -/
def oneLine (empty : String) (node : TypeNode) : Except Fault String :=
  (TypeScript.expression .preserve empty 0 node).map Text.singleSpaced

/-- The type expression of an optional node on one line. -/
def optionalLine : Option TypeNode → Except Fault String
  | none => .ok nothing
  | some node => oneLine "any" node

/-! ## Tables -/

/-- The row of an operation. -/
def operationRow (operation : Operation) : Except Fault (List String) := do
  let body ← optionalLine operation.body
  let response ← oneLine "void" operation.response
  .ok [operation.name, Text.upperString operation.method.name, operation.path,
    propertyNames operation.pathNode, propertyNames operation.queryNode, body, response]

/-- A title that tells what a table is about and how many rows it has. -/
def tableTitle (spec : Spec) (subject : String) (count : Nat) : String :=
  spec.info.title ++ " -- " ++ subject ++ " (" ++ toString count ++ ")"

/-- The table of the operations of a description. -/
def operationTable (spec : Spec) : Except Fault Table := do
  let rows ← spec.operations.mapM operationRow
  .ok ⟨some (tableTitle spec "Operations" rows.length),
    ["Name", "Method", "Path", "Path params", "Query params", "Body", "Response"], rows⟩

/-- The row of a definition. -/
def definitionRow (definition : Definition) : List String :=
  [definition.name, definition.schema.kindName, propertyNames definition.schema]

/-- The table of the definitions of a description. -/
def definitionTable (spec : Spec) : Table :=
  ⟨some (tableTitle spec "Definitions" spec.definitions.length), ["Name", "Kind", "Properties"],
    spec.definitions.map definitionRow⟩

end ClientGen.Api
