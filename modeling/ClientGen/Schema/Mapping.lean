import ClientGen.Failure
import ClientGen.Schema.TypeNode
import ClientGen.Text.Basic
import ClientGen.Text.Utf8

/-!
# From schemas to type nodes

A schema has exactly one shape, which the keys that it has decide in a fixed order of precedence.
The mapping follows the shape. It refuses a document only when an object schema has a property
whose name is no text, or when a schema is a part of itself.
-/

/-!
## Pointers to definitions

A reference points to a definition by its place in the document. The name in a pointer escapes the
slash and the tilde, the tilde first; reading undoes the escapes in the opposite order.
-/

namespace ClientGen.Pointer

/-- Where the definitions of a document stand. -/
def definitions : List Char := "#/definitions/".toList

/-- Undo the escapes of a name. -/
def unescape (text : List Char) : List Char :=
  Text.replacePair '~' '0' '~' (Text.replacePair '~' '1' '/' text)

/-- Escape a name. -/
def escape (name : List Char) : List Char :=
  Text.replaceChar '/' ['~', '1'] (Text.replaceChar '~' ['~', '0'] name)

/-- The characters of the name that a pointer ends in. -/
def nameChars (pointer : List Char) : List Char :=
  unescape ((Text.dropLeading? definitions pointer).getD (Text.afterLast '/' pointer))

/-- The definition name of a pointer: all after the place of the definitions, or else the last
segment. -/
def name (pointer : String) : String := String.ofList (nameChars pointer.toList)

/-- The pointer to a definition. -/
def toDefinition (name : String) : String :=
  String.ofList (definitions ++ escape name.toList)

end ClientGen.Pointer

namespace ClientGen.Schema

/-! ## Shapes -/

/-- The shapes of a schema. -/
inductive Shape where
  /-- A pointer to a definition. -/
  | ref
  /-- A composition. -/
  | allOf
  /-- A choice of literal values. -/
  | choice
  /-- A sequence. -/
  | array
  /-- An object with properties. -/
  | object
  /-- A scalar type. -/
  | scalar
  /-- None of these. -/
  | empty
  deriving DecidableEq, Repr, Inhabited

/-- The name of a shape. -/
def Shape.name : Shape → String
  | .ref => "ref"
  | .allOf => "allOf"
  | .choice => "enum"
  | .array => "array"
  | .object => "object"
  | .scalar => "primitive"
  | .empty => "empty"

/-- The scalar kind of a type name. -/
def scalarKind? : String → Option ScalarKind
  | "string" => some .string
  | "number" => some .number
  | "integer" => some .number
  | "boolean" => some .boolean
  | "file" => some .any
  | "null" => some .any
  | _ => none

/-- The declared type of a schema, when it is text. -/
def typeName? (schema : Value) : Option String := (schema.field? "type").bind Value.text?

/-- The pointer of a schema, when it is text. -/
def pointer? (schema : Value) : Option String := (schema.field? "$ref").bind Value.text?

/-- The members of a composition, when they are a list. -/
def members? (schema : Value) : Option (List Value) :=
  (schema.field? "allOf").bind Value.items?

/-- The literal values of a choice, when they are a list. -/
def literals? (schema : Value) : Option (List Value) :=
  (schema.field? "enum").bind Value.items?

/-- The one shape of a schema. -/
def shape (schema : Value) : Shape :=
  if (pointer? schema).isSome then .ref
  else if (members? schema).isSome then .allOf
  else if (literals? schema).isSome then .choice
  else if typeName? schema = some "array" ∨ (schema.field? "items").isSome then .array
  else if typeName? schema = some "object" ∨ (schema.field? "properties").isSome then .object
  else if ((typeName? schema).bind scalarKind?).isSome then .scalar
  else .empty

/-! ## Choices -/

/-- A truth value. -/
def isBool : Value → Bool
  | .bool _ => true
  | _ => false

/-- A number, integral or not. -/
def isNumber : Value → Bool
  | .int _ | .float _ => true
  | _ => false

/-- A text. -/
def isText : Value → Bool
  | .text _ => true
  | _ => false

/-- The common kind of some literals. -/
def inferKind (literals : List Value) : ScalarKind :=
  if literals.isEmpty then .any
  else if literals.all isBool then .boolean
  else if literals.all isNumber then .number
  else if literals.all isText then .string
  else .any

/-- The kind of a choice: the declared one, or else the common kind of the literals. -/
def choiceKind (schema : Value) (literals : List Value) : ScalarKind :=
  ((typeName? schema).bind scalarKind?).getD (inferKind literals)

/-! ## Compositions -/

/-- Properties and bases collected from the members of a composition. -/
structure Merged where
  /-- The properties, each as its last member has it. -/
  properties : List (String × TypeNode)
  /-- The names of the bases, without repetition. -/
  bases : List String
  deriving DecidableEq, Repr

/-- Add one member: objects give properties and bases, references give a base. -/
def Merged.add (merged : Merged) : TypeNode → Merged
  | .object _ properties bases =>
      ⟨TypeNode.putProperties merged.properties properties, TypeNode.addNames merged.bases bases⟩
  | .reference _ name => ⟨merged.properties, TypeNode.addName merged.bases name⟩
  | _ => merged

/-- The members of a composition merged in order. -/
def merge (members : List TypeNode) : Merged := members.foldl Merged.add ⟨[], []⟩

/-! ## Mapping -/

/-- The text of a property name. Binary data counts when it is text. -/
def propertyName? : Value → Option String
  | .text name => some name
  | .bytes octets => (Text.Utf8.decode? octets).map String.ofList
  | _ => none

/-- The names that a schema requires. -/
def requiredNames (schema : Value) : List Value :=
  ((schema.field? "required").bind Value.items?).getD []

mutual

/-- The type node of a schema. -/
def map (required : Bool) : Value → Except Fault TypeNode
  | .map entries =>
      let schema := Value.map entries
      match shape schema with
      | .ref => .ok (.reference required (Pointer.name ((pointer? schema).getD "")))
      | .allOf => do
          let merged := merge (← mapMembers entries)
          .ok (.object required merged.properties merged.bases)
      | .choice =>
          let literals := (literals? schema).getD []
          .ok (.scalar required (choiceKind schema literals) (some literals))
      | .array => do .ok (.array required (← mapItems entries))
      | .object => do
          let properties ← mapProperties (requiredNames schema) entries
          .ok (.object required (TypeNode.putProperties [] properties) [])
      | .scalar =>
          .ok (.scalar required (((typeName? schema).bind scalarKind?).getD .any) none)
      | .empty => .ok (.empty required)
  | .recurring (.map []) => .error .endless
  | .recurring content => map required content
  | _ => .ok (.empty required)

/-- The node of the items of an array schema. -/
def mapItems : List (Value × Value) → Except Fault TypeNode
  | [] => .ok (.empty false)
  | (.text name, value) :: rest => if name = "items" then map false value else mapItems rest
  | _ :: rest => mapItems rest

/-- The nodes of the members of a composition. -/
def mapMembers : List (Value × Value) → Except Fault (List TypeNode)
  | [] => .ok []
  | (.text name, value) :: rest => if name = "allOf" then mapList value else mapMembers rest
  | _ :: rest => mapMembers rest

/-- The nodes of the schemas of a list. -/
def mapList : Value → Except Fault (List TypeNode)
  | .list schemas => mapAll schemas
  | .recurring (.list []) => .error .endless
  | .recurring (.list schemas) => mapAll schemas
  | _ => .ok []

/-- The nodes of several schemas. -/
def mapAll : List Value → Except Fault (List TypeNode)
  | [] => .ok []
  | schema :: rest => do
      let node ← map false schema
      let nodes ← mapAll rest
      .ok (node :: nodes)

/-- The properties of an object schema. -/
def mapProperties (required : List Value) :
    List (Value × Value) → Except Fault (List (String × TypeNode))
  | [] => .ok []
  | (.text name, value) :: rest =>
      if name = "properties" then mapMapping required value else mapProperties required rest
  | _ :: rest => mapProperties required rest

/-- The properties that a mapping declares. -/
def mapMapping (required : List Value) : Value → Except Fault (List (String × TypeNode))
  | .map entries => mapEntries required entries
  | .recurring (.map []) => .error .endless
  | .recurring (.map entries) => mapEntries required entries
  | _ => .ok []

/-- The property of each entry of a mapping. -/
def mapEntries (required : List Value) :
    List (Value × Value) → Except Fault (List (String × TypeNode))
  | [] => .ok []
  | (key, schema) :: rest => do
      let node ← map (decide (key ∈ required)) schema
      let properties ← mapEntries required rest
      match propertyName? key with
      | some name => .ok ((name, node) :: properties)
      | none => .error .invalidField

end

/-- A schema inside of itself has the node that it has when it is looked at on its own. -/
theorem map_of_recurring {required : Bool} {content : Value} {node : TypeNode}
    (mapped : map required (.recurring content) = .ok node) : map required content = .ok node := by
  cases content with
  | map entries =>
      cases entries with
      | nil => cases mapped
      | cons first rest => exact mapped
  | _ => exact mapped

end ClientGen.Schema
