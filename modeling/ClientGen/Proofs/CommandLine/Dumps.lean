import ClientGen.Proofs.Api.Literals
import ClientGen.Proofs.CommandLine.Inspection

/-!
# Inspections in JSON

An inspection in the JSON layout shows the JSON forms of operations or definitions. The nodes in
them are those of the description: if the document was read from JSON and all its numbers are
finite, each node is read back from the place where it is shown, so that two different nodes are
never shown alike.
-/

namespace ClientGen

open Json

/-! ## Members of JSON forms -/

namespace TypeNode

variable {node other : TypeNode}

/-- The node of a member. -/
def at? (name : String) : Value → Option TypeNode
  | .map entries => (Value.fieldOf name entries).bind ofJson?
  | _ => none

/-- The node of a JSON form, no node for null. -/
def optionalOfJson? : Value → Option (Option TypeNode)
  | .null => some none
  | dump => (ofJson? dump).map some

/-- The node of a member that may be null. -/
def optionalAt? (name : String) : Value → Option (Option TypeNode)
  | .map entries => (Value.fieldOf name entries).bind optionalOfJson?
  | _ => none

theorem exists_optionalOfJson? {node : Option TypeNode}
    (json : ∀ held ∈ node, held.HasJsonLiterals) :
    ∃ dump, Api.optionalNode node = .ok dump ∧ optionalOfJson? dump = some node := by
  cases node with
  | none => exact ⟨.null, rfl, rfl⟩
  | some held =>
      obtain ⟨dump, written, decoded⟩ := exists_isDump held (json held rfl)
      refine ⟨dump, written, ?_⟩
      rw [optionalOfJson?, decoded]
      · rfl
      · rintro rfl
        cases decoded

/-- Nodes with the same JSON form are the same. -/
theorem eq_of_toJson_eq (json : node.HasJsonLiterals) (otherJson : other.HasJsonLiterals)
    (same : node.toJson = other.toJson) : node = other := by
  obtain ⟨dump, written, decoded⟩ := exists_isDump node json
  obtain ⟨otherDump, otherWritten, otherDecoded⟩ := exists_isDump other otherJson
  obtain rfl := Except.ok.inj (written.symm.trans (same.trans otherWritten))
  exact Option.some.inj (decoded.symm.trans otherDecoded)

end TypeNode

namespace Api

open TypeNode

/-- A JSON form of a definition from which its schema is read back. -/
structure Definition.IsDump (definition : Definition) (dump : Value) : Prop where
  written : definition.toJson = .ok dump
  schema : at? "schema" dump = some definition.schema

/-- A JSON form of an operation from which all its nodes are read back. -/
structure Operation.IsDump (operation : Operation) (dump : Value) : Prop where
  written : operation.toJson = .ok dump
  path : at? "path_parameter" dump = some operation.pathNode
  query : at? "query_parameter" dump = some operation.queryNode
  body : optionalAt? "body_parameter" dump = some operation.body
  response : at? "response" dump = some operation.response

theorem Definition.exists_isDump {definition : Definition}
    (json : definition.schema.HasJsonLiterals) : ∃ dump, definition.IsDump dump := by
  obtain ⟨schema, written, decoded⟩ := TypeNode.exists_isDump _ json
  refine ⟨_, ⟨by rw [toJson, written]; rfl, ?_⟩⟩
  exact decoded

theorem Operation.exists_isDump {operation : Operation}
    (json : ∀ node ∈ operation.nodes, node.HasJsonLiterals) : ∃ dump, operation.IsDump dump := by
  simp only [nodes, List.forall_mem_append, List.forall_mem_cons, Option.mem_toList] at json
  obtain ⟨⟨⟨pathJson, queryJson, _⟩, bodyJson⟩, responseJson, _⟩ := json
  obtain ⟨path, pathWritten, pathDecoded⟩ := TypeNode.exists_isDump _ pathJson
  obtain ⟨query, queryWritten, queryDecoded⟩ := TypeNode.exists_isDump _ queryJson
  obtain ⟨body, bodyWritten, bodyDecoded⟩ := exists_optionalOfJson? bodyJson
  obtain ⟨response, responseWritten, responseDecoded⟩ := TypeNode.exists_isDump _ responseJson
  have written : operation.toJson = .ok (Value.ofMembersNamed
      [("name", .text operation.name), ("path", .text operation.path),
        ("method", .text operation.method.name), ("summary", Value.ofOptional operation.summary),
        ("response", response), ("path_parameter", path), ("query_parameter", query),
        ("body_parameter", body)]) := by
    rw [toJson, responseWritten, pathWritten, queryWritten, bodyWritten]
    rfl
  exact ⟨_, written, pathDecoded, queryDecoded, bodyDecoded, responseDecoded⟩

end Api

namespace CommandLine

variable {host : Host} {choices : OutputChoices} {source : String} {subject : Subject}
  {spec : Api.Spec}

/-! ## Inspections -/

/-- An inspection in the JSON layout prints the JSON text of the JSON forms, or ends in a fault. -/
theorem inspect_json_of_described (json : choices.layout = some .json)
    (described : (describe host source).result = .ok spec) {dumps : List Value}
    (made : subjectJson spec subject = .ok dumps) :
    inspect host choices subject source =
      match Json.indented (.list dumps) with
      | .ok text => .told (.done ((describedConsole host choices source).writeLine text) host.tree)
      | .error fault => crash host (describedConsole host choices source) fault := by
  have formed : (Reporting.ofResult ((subjectJson spec subject).mapError Problem.fault)).perform
      (describedConsole host choices source) =
        (.ok dumps, describedConsole host choices source) := by
    rw [made]
    rfl
  rw [inspect, layout_commandConsole json]
  simp only [perform_inspection described]
  rw [showSubject, if_pos rfl, Reporting.perform_bind_of_ok formed]
  cases Json.indented (.list dumps) with
  | ok text => rfl
  | error fault => rfl

/-- The nodes that inspections of a description show. -/
def shownNodes (spec : Api.Spec) : List TypeNode :=
  spec.definitions.map (·.schema) ++ spec.operations.flatMap Api.Operation.nodes

/-- A description of a document that was read from JSON and has finite numbers only. -/
def IsOfJson (spec : Api.Spec) : Prop :=
  ∃ text document, Json.read text = .ok document ∧ IsFinite document ∧
    (Api.extract document).result = .ok spec

/-- The nodes of a description are determined by what an inspection in the JSON layout shows. -/
structure ShowsNodes (spec : Api.Spec) : Prop where
  /-- Each node has a JSON form from which it is read back. -/
  nodes : ∀ node ∈ shownNodes spec, ∃ dump, node.IsDump dump
  /-- The schema of each definition is read back. -/
  definitions : ∃ dumps, subjectJson spec .definitions = .ok dumps ∧
    List.Forall₂ Api.Definition.IsDump spec.definitions dumps
  /-- The path, query, body and response of each operation are read back. -/
  operations : ∃ dumps, subjectJson spec .operations = .ok dumps ∧
    List.Forall₂ Api.Operation.IsDump spec.operations dumps
  /-- No other node of this description or of another has the same JSON form. -/
  apart : ∀ node ∈ shownNodes spec, ∀ elsewhere, IsOfJson elsewhere →
    ∀ other ∈ shownNodes elsewhere, node.toJson = other.toJson → node = other

theorem hasJsonLiterals_shownNodes (json : IsOfJson spec) :
    ∀ node ∈ shownNodes spec, node.HasJsonLiterals := by
  obtain ⟨text, document, read, finite, extracted⟩ := json
  have own := isOwnForm_of_read read finite
  rw [shownNodes, List.forall_mem_append, List.forall_mem_map]
  refine ⟨?_, fun node member => ?_⟩
  · exact Api.hasJsonLiterals_definition own (Api.extract_eq_ok extracted).1
  · obtain ⟨operation, listed, inside⟩ := List.mem_flatMap.mp member
    exact Api.hasJsonLiterals_operation own extracted operation listed node inside

/-- The nodes of a document read from JSON, all its numbers finite, are read back from what an
inspection in the JSON layout shows of them. -/
theorem showsNodes (json : IsOfJson spec) : ShowsNodes spec := by
  have literals := hasJsonLiterals_shownNodes json
  obtain ⟨inDefinitions, inOperations⟩ := List.forall_mem_append.mp literals
  refine ⟨?_, ?_, ?_, fun node member elsewhere elsewhereJson other otherMember same => ?_⟩
  · exact fun node member => TypeNode.exists_isDump node (literals node member)
  · obtain ⟨dumps, each⟩ := exists_forall₂_iff.mpr fun definition listed =>
      Api.Definition.exists_isDump (inDefinitions _ (List.mem_map_of_mem listed))
    exact ⟨dumps, mapM_eq_ok.mpr (each.imp fun _ _ dump => dump.written), each⟩
  · obtain ⟨dumps, each⟩ := exists_forall₂_iff.mpr fun operation listed =>
      Api.Operation.exists_isDump fun node inside =>
        inOperations node (List.mem_flatMap.mpr ⟨operation, listed, inside⟩)
    exact ⟨dumps, mapM_eq_ok.mpr (each.imp fun _ _ dump => dump.written), each⟩
  · exact TypeNode.eq_of_toJson_eq (literals node member)
      (hasJsonLiterals_shownNodes elsewhereJson other otherMember) same

/-- The text of a document with properties that are named like the members of JSON forms, and with a
literal that is shaped like the JSON form of a node. -/
def formsText : List Char :=
  "\x7b\"swagger\":\"2.0\",\"paths\":\x7b\"/notes\":\x7b\"post\":\x7b".toList ++
    "\"operationId\":\"addNote\",\"parameters\":[\x7b\"name\":\"note\",\"in\":\"body\",".toList ++
    "\"schema\":\x7b\"properties\":\x7b\"kind\":\x7b\"type\":\"string\"\x7d,".toList ++
    "\"required\":\x7b\"type\":\"array\",\"items\":\x7b\"type\":\"integer\"\x7d\x7d\x7d,".toList ++
    "\"required\":[\"kind\"]\x7d\x7d],\"responses\":\x7b\x7d\x7d\x7d\x7d,".toList ++
    "\"definitions\":\x7b\"Form\":\x7b\"type\":\"string\",\"enum\":[".toList ++
    "\x7b\"required\":false,\"kind\":\"empty\"\x7d,null,1.5]\x7d\x7d\x7d".toList

/-- The schema of the body. -/
def formsBody : Value := .map
  [(.text "properties", .map [(.text "kind", .map [(.text "type", .text "string")]),
    (.text "required", .map [(.text "type", .text "array"),
      (.text "items", .map [(.text "type", .text "integer")])])]),
    (.text "required", .list [.text "kind"])]

/-- The literals of the definition. -/
def formsLiterals : List Value :=
  [.map [(.text "required", .bool false), (.text "kind", .text "empty")], .null,
    .float (.finite false 6755399441055744 (-52))]

/-- The document. -/
def formsDocument : Value := .map
  [(.text "swagger", .text "2.0"),
    (.text "paths", .map [(.text "/notes", .map [(.text "post", .map
      [(.text "operationId", .text "addNote"),
        (.text "parameters", .list [.map [(.text "name", .text "note"), (.text "in", .text "body"),
          (.text "schema", formsBody)]]),
        (.text "responses", .map [])])])]),
    (.text "definitions", .map [(.text "Form", .map [(.text "type", .text "string"),
      (.text "enum", .list formsLiterals)])])]

/-- What the document describes. -/
def formsSpec : Api.Spec where
  formatVersion := "2.0"
  info := ⟨"Untitled API", "0.0.0", none⟩
  definitions := [⟨"Form", .scalar false .string (some formsLiterals)⟩]
  operations := [⟨"addNote", "/notes", .post, none, .empty false, [], [],
    some (.object false [("kind", .scalar true .string none),
      ("required", .array false (.scalar false .number none))] [])⟩]

theorem formsSpec_showsNodes : IsOfJson formsSpec ∧ ShowsNodes formsSpec := by
  have read : Json.read formsText = .ok formsDocument := by
    unfold formsText
    iterate 7 rewrite [String.toList_ofList]
    decide +kernel
  have finite : IsFinite formsDocument := by
    have all : allWithin parts (fun part => decide (HasSize part)) 12 formsDocument = true := by
      decide +kernel
    exact fun part inside => of_decide_eq_true (throughout_of_allWithin all part inside)
  have extracted : (Api.extract formsDocument).result = .ok formsSpec := by decide +kernel
  have json : IsOfJson formsSpec := ⟨_, _, read, finite, extracted⟩
  exact ⟨json, showsNodes json⟩

end CommandLine

end ClientGen
