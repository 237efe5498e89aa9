import ClientGen.Api.Encoding
import ClientGen.Json.Writer
import ClientGen.Template.Method.Text

/-!
# Operations of type nodes

A type node can be read back from the store, also when its parts have been changed, and it can be
written as a mapping or as JSON.
-/

namespace ClientGen.Template

namespace Run

open Datum hiding none

/-! ## Data as document values -/

/-- The text of a key in JSON. -/
def jsonKey (datum : Datum) : Run String := do
  match datum, datum.text? with
  | _, some s => pure s
  | .none, _ => pure "null"
  | .bool b, _ => pure (if b then "true" else "false")
  | .int n, _ => numeral n
  | .float x, _ => pure (Json.floatText x)
  | _, _ => unsupported

/-- The document value that JSON has for a datum. Mappings are sorted by their keys on demand. -/
def jsonFrom (isSorted : Bool) : (fuel : Nat) → (around : List Place) → Datum → Run Value
  | 0, _, _ => fault .endless
  | fuel + 1, around, datum => do
      match datum, datum.text? with
      | _, some s => pure (.text s)
      | .none, _ => pure .null
      | .bool b, _ => pure (.bool b)
      | .int n, _ => do
          let _ ← numeral n
          pure (.int n)
      | .float x, _ => pure (.float x)
      | .tuple items, _ => do pure (.list (← items.mapM (jsonFrom isSorted fuel around)))
      | .group key items, _ => do
          pure (.list [← jsonFrom isSorted fuel around key, ← jsonFrom isSorted fuel around items])
      | .list place, _ => do
          if around.contains place then fault .badValue
          else do
            pure (.list (← (← listAt place).toList.mapM (jsonFrom isSorted fuel (place :: around))))
      | .map place, _ => do
          if around.contains place then fault .badValue
          else
            let entries := (← entriesAt place).toList
            let entries ← if isSorted then sortPairs isLess entries else pure entries
            let members ← entries.mapM fun (key, value) => do
              let name ← jsonKey key
              pure (Value.text name, ← jsonFrom isSorted fuel (place :: around) value)
            pure (.map members)
      | _, _ => unsupported

/-- The document value that JSON has for a datum, mappings sorted by their keys. -/
def sortedJson (datum : Datum) : Run Value := jsonFrom true greatestDepth [] datum

/-- The document value of a literal; one that JSON does not have is represented by octets, which
have no JSON form, either. -/
def literalOf (datum : Datum) : Run Value :=
  rescue (jsonFrom false greatestDepth [] datum) (· == .badKind) (pure (.bytes []))

/-! ## Reading nodes back -/

/-- The texts of a list of texts. -/
def textsOf (datum : Datum) : Run (List String) := do
  match datum with
  | .list place => (← listAt place).toList.mapM fun item => orFault .badKind item.text?
  | _ => unsupported

/-- A flag among fields. -/
def flagIn (fields : List (String × Datum)) (name : String) : Bool :=
  named name fields == some (.bool true)

/-- The shape of a node. -/
def shapeFrom : (fuel : Nat) → Datum → Run TypeNode
  | 0, _ => fault .endless
  | fuel + 1, datum => do
      match datum with
      | .undefined what => missing what
      | .node place => do
          match ← read place with
          | .sealed shape => pure shape
          | .node _ fields => do
              let required := flagIn fields "required"
              let field (name : String) : Datum := (named name fields).getD .none
              match (field "kind").text?, field "name", field "literals", field "properties" with
              | some "primitive", .scalarKind kind, .list literals, _ => do
                  let values ← (← listAt literals).toList.mapM literalOf
                  pure (.scalar required kind (some values))
              | some "primitive", .scalarKind kind, _, _ => pure (.scalar required kind none)
              | some "array", _, _, _ => do
                  pure (.array required (← shapeFrom fuel (field "items")))
              | some "object", _, _, .map properties => do
                  let found ← (← entriesAt properties).toList.mapM fun (key, value) => do
                    let shape ← shapeFrom fuel value
                    pure (← orFault .badKind key.text?, shape)
                  pure (.object required found (← textsOf (field "bases")))
              | some "reference", .text name, _, _ => pure (.reference required name)
              | _, _, _, _ => pure (.empty required)
          | _ => unsupported
      | _ => fault .missingMember

/-- The shape of a datum that has to be a node. -/
def shapeOf (datum : Datum) : Run TypeNode :=
  match datum with
  | .node _ => shapeFrom greatestDepth datum
  | _ => unsupported

/-! ## Writing nodes -/

/-- A mapping of fields, without absent ones on demand. -/
def newFieldMap (dropsAbsent : Bool) (fields : List (String × Datum)) : Run Datum :=
  newRecord (if dropsAbsent then fields.filter fun (_, value) => value != .none else fields)

mutual

/-- A node as a mapping of its fields. -/
def dump (isJson dropsAbsent : Bool) : TypeNode → Run Datum
  | .scalar required kind literals => do
      let shown ← match literals with
        | .none => pure .none
        | some values =>
            if isJson then do
              newList (← ofValues .none (← ofResult ((Value.toJsonItems values).mapError .fault)))
            else do newList (← ofValues .none values)
      newFieldMap dropsAbsent [("required", .bool required), ("kind", .text "primitive"),
        ("name", if isJson then .text kind.name else .scalarKind kind), ("literals", shown)]
  | .array required items => do
      newFieldMap dropsAbsent [("required", .bool required), ("kind", .text "array"),
        ("items", ← dump isJson dropsAbsent items)]
  | .object required properties bases => do
      let shown ← newRecord (← dumpAll isJson dropsAbsent properties)
      newFieldMap dropsAbsent [("required", .bool required), ("kind", .text "object"),
        ("properties", shown), ("bases", ← newTexts bases)]
  | .reference required name =>
      newFieldMap dropsAbsent
        [("required", .bool required), ("kind", .text "reference"), ("name", .text name)]
  | .empty required =>
      newFieldMap dropsAbsent [("required", .bool required), ("kind", .text "empty")]

/-- Properties as entries. -/
def dumpAll (isJson dropsAbsent : Bool) : List (String × TypeNode) → Run (List (String × Datum))
  | [] => pure []
  | (name, shape) :: rest => do
      let first ← dump isJson dropsAbsent shape
      pure ((name, first) :: (← dumpAll isJson dropsAbsent rest))

end

/-- A JSON value without its absent members. -/
def withoutAbsent : (fuel : Nat) → Value → Value
  | fuel + 1, .map entries =>
      .map ((entries.filter fun (_, value) => value ≠ .null).map fun (key, value) =>
        (key, withoutAbsent fuel value))
  | _, value => value

/-- The named arguments that writing a node understands. -/
def dumpParameters : List (String × Option Datum) :=
  [("exclude_none", some (.bool false)), ("by_alias", some .none),
    ("exclude_unset", some (.bool false)), ("exclude_defaults", some (.bool false)),
    ("round_trip", some (.bool false)), ("warnings", some (.bool true))]

/-- The operation of a node. -/
def nodeMethod (datum : Datum) (place : Place) (name : String) (arguments : Supplied) :
    Run Datum := do
  if !arguments.positional.isEmpty then unsupported
  else
    match name with
    | "model_dump" | "dict" => do
        match ← arguments.fit (("mode", some (.text "python")) :: dumpParameters) with
        | mode :: dropsAbsent :: _ => do
            dump (mode.text? == some "json") (← isTruthy dropsAbsent) (← shapeOf datum)
        | _ => unsupported
    | "model_dump_json" | "json" => do
        match ← arguments.fit (("indent", some .none) :: dumpParameters) with
        | indent :: dropsAbsent :: _ => do
            let value ← ofResult ((TypeNode.toJson (← shapeOf datum)).mapError .fault)
            let value := if ← isTruthy dropsAbsent then withoutAbsent greatestDepth value else value
            let style := match indent.int? with
              | some n => Json.linedStyle Json.quoteWide n.toNat
              | .none => Json.denseStyle
            pure (.text (← ofResult ((Json.write style 0 value).mapError .fault)))
        | _ => unsupported
    | _ => do
        let (type', fields) ← fieldsAt place
        pure (.node (← new (.node type' fields)))

end Run

end ClientGen.Template
