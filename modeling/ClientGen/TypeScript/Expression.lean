import ClientGen.Failure
import ClientGen.Schema.TypeNode
import ClientGen.TypeScript.Identifier

/-!
# Type expressions

Type nodes are written as TypeScript types. Objects are laid out with one property to a line, two
spaces deeper at each level; bases are intersected with the properties of the object itself. The
only nodes without a type expression are those with literals that JSON cannot express.
-/

namespace ClientGen.TypeScript

/-- The indentation of a level; there is none below level zero. -/
def indent (level : Int) : String := String.ofList (List.replicate (2 * level).toNat ' ')

/-- A literal type. -/
def literal (value : Value) : Except Fault String := Json.compact value

/-- The union of literal types. -/
def union (literals : List Value) : Except Fault String := do
  .ok (Text.joinStrings " | " (← literals.mapM literal))

/-- The type of a scalar. -/
def scalar (kind : ScalarKind) (literals : Option (List Value)) : Except Fault String :=
  match literals with
  | none | some [] => .ok kind.name
  | some literals => union literals

/-- The mark of a property that may be absent. -/
def optionalMark (required : Bool) : String := if required then "" else "?"

/-- An object literal from its lines. -/
def braced (level : Int) (lines : List String) : String :=
  if lines.isEmpty then "\x7b\x7d"
  else "\x7b\n" ++ String.join (lines.map (· ++ "\n")) ++ indent level ++ "\x7d"

mutual

/-- The type expression of a node at a level, with `empty` for a node without a shape. -/
def expression (convention : Name.Convention) (empty : String) (level : Int) :
    TypeNode → Except Fault String
  | .scalar _ kind literals => scalar kind literals
  | .array _ items => do .ok ("Array<" ++ (← expression convention "any" level items) ++ ">")
  | .reference _ name => .ok (identifier name)
  | .object _ properties bases => do
      let own ←
        if properties.isEmpty && !bases.isEmpty then .ok []
        else do .ok [braced level (← propertyLines convention level properties)]
      .ok (Text.joinStrings " & " (bases.map identifier ++ own))
  | .empty _ => .ok empty

/-- The line of each property of an object at a level. -/
def propertyLines (convention : Name.Convention) (level : Int) :
    List (String × TypeNode) → Except Fault (List String)
  | [] => .ok []
  | (name, node) :: rest => do
      let type ← expression convention "any" (level + 1) node
      let lines ← propertyLines convention level rest
      .ok ((indent level ++ indent 1 ++ propertyKey name convention ++ optionalMark node.required ++
        ": " ++ type ++ ";") :: lines)

end

end ClientGen.TypeScript
