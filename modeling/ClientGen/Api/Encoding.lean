import ClientGen.Api.Spec
import ClientGen.Failure
import ClientGen.Number.Shortest
import ClientGen.Schema.TypeNode
import ClientGen.Text.Utf8

/-!
# Descriptions as JSON

The JSON form of definitions and operations, for other programs to read.
-/

namespace ClientGen

/-!
## Type nodes as JSON

The JSON form of type nodes, for other programs to read. Literals that JSON does not have are
spelled as text, and a number without a finite value becomes null.
-/

namespace Value

/-- The text that stands for binary data in JSON. -/
def octetsText (octets : List UInt8) : Except Fault String :=
  match Text.Utf8.decode? octets with
  | some chars => .ok (String.ofList chars)
  | none => .error .unserializable

/-- The text that stands for a key in JSON. -/
def jsonKey : Value → Except Fault String
  | .null => .ok "None"
  | .bool b => .ok (if b then "true" else "false")
  | .int n => .ok (toString n)
  | .float x => .ok (if x.isFinite then x.toText else "None")
  | .text s => .ok s
  | .bytes octets => octetsText octets
  | .day d => .ok d.toText
  | .moment m => .ok m.toIso
  | .pair first second => do .ok ((← jsonKey first) ++ "," ++ (← jsonKey second))
  | .list _ | .set _ | .map _ | .recurring _ => .error .badKind

mutual

/-- The JSON form of a value. -/
def toJson : Value → Except Fault Value
  | .float x => .ok (if x.isFinite then .float x else .null)
  | .bytes octets => do .ok (.text (← octetsText octets))
  | .day d => .ok (.text d.toText)
  | .moment m => .ok (.text m.toIso)
  | .list items => do .ok (.list (← toJsonItems items))
  | .pair first second => do .ok (.list [← toJson first, ← toJson second])
  | .set items => do .ok (.list (← toJsonItems items))
  | .map entries => do .ok (.map (ofEntries (← toJsonEntries entries)))
  | .null => .ok .null
  | .bool b => .ok (.bool b)
  | .int n => .ok (.int n)
  | .text s => .ok (.text s)
  | .recurring _ => .error .badValue

/-- The JSON forms of the items of a sequence. -/
def toJsonItems : List Value → Except Fault (List Value)
  | [] => .ok []
  | item :: rest => do .ok ((← toJson item) :: (← toJsonItems rest))

/-- The JSON forms of entries. -/
def toJsonEntries : List (Value × Value) → Except Fault (List (Value × Value))
  | [] => .ok []
  | (key, value) :: rest => do
      let name ← jsonKey key
      let first ← toJson value
      .ok ((.text name, first) :: (← toJsonEntries rest))

end

/-- A mapping of named members. -/
def ofMembersNamed (members : List (String × Value)) : Value :=
  .map (members.map fun (name, value) => (.text name, value))

end Value

namespace TypeNode

/-- The JSON form of a node with the members that its kind adds. -/
def withCommonMembers (node : TypeNode) (members : List (String × Value)) : Value :=
  Value.ofMembersNamed
    ([("required", .bool node.required), ("kind", .text node.kindName)] ++ members)

/-- The JSON form of optional literals. -/
def literalsToJson : Option (List Value) → Except Fault Value
  | none => .ok .null
  | some literals => do .ok (.list (← Value.toJsonItems literals))

mutual

/-- The JSON form of a node. -/
def toJson : TypeNode → Except Fault Value
  | .scalar required kind literals => do
      .ok (withCommonMembers (.scalar required kind literals)
        [("name", .text kind.name), ("literals", ← literalsToJson literals)])
  | .array required items => do
      .ok (withCommonMembers (.array required items) [("items", ← toJson items)])
  | .object required properties bases => do
      .ok (withCommonMembers (.object required properties bases)
        [("properties", Value.ofMembersNamed (← propertiesToJson properties)),
          ("bases", .list (bases.map .text))])
  | .reference required name =>
      .ok (withCommonMembers (.reference required name) [("name", .text name)])
  | .empty required => .ok (withCommonMembers (.empty required) [])

/-- The JSON forms of properties. -/
def propertiesToJson : List (String × TypeNode) → Except Fault (List (String × Value))
  | [] => .ok []
  | (name, node) :: rest => do .ok ((name, ← toJson node) :: (← propertiesToJson rest))

end

end TypeNode

/-! ## Definitions and operations as JSON -/

namespace Api

/-- The JSON form of a definition. -/
def Definition.toJson (definition : Definition) : Except Fault Value := do
  .ok (Value.ofMembersNamed
    [("name", .text definition.name), ("schema", ← definition.schema.toJson)])

/-- The JSON form of an optional node. -/
def optionalNode : Option TypeNode → Except Fault Value
  | none => .ok .null
  | some node => node.toJson

/-- The JSON form of an operation. -/
def Operation.toJson (operation : Operation) : Except Fault Value := do
  let response ← operation.response.toJson
  let path ← operation.pathNode.toJson
  let query ← operation.queryNode.toJson
  let body ← optionalNode operation.body
  .ok (Value.ofMembersNamed
    [("name", .text operation.name), ("path", .text operation.path),
      ("method", .text operation.method.name), ("summary", Value.ofOptional operation.summary),
      ("response", response), ("path_parameter", path), ("query_parameter", query),
      ("body_parameter", body)])

end Api

end ClientGen
