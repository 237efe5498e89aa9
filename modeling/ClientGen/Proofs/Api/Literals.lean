import ClientGen.Proofs.Api.Extraction
import ClientGen.Proofs.Schema.Decoding
import ClientGen.Proofs.Schema.Optionality

/-!
# Literals of extracted interfaces

All nodes of the definitions and operations of an interface come from schemas of its document. If
the document is its own JSON form, the literals of all of them are theirs.
-/

/-!
## Literals of mapped schemas

The literals of a node are values of the schema that it comes from. If the schema is its own JSON
form, so are they, at all depths, and the node is read back from its own JSON form.
-/

namespace ClientGen

open Json TypeNode

namespace TypeNode

theorem hasJsonLiterals_of_children {node : TypeNode} (none : node.literals = [])
    (each : ∀ child ∈ node.children, child.HasJsonLiterals) : node.HasJsonLiterals := by
  refine throughout_iff.mpr ⟨?_, each⟩
  rw [none]
  exact nofun

theorem hasJsonLiterals_object {required : Bool} {properties : List (String × TypeNode)}
    {bases : List String} (each : ∀ property ∈ properties, property.2.HasJsonLiterals) :
    (object required properties bases).HasJsonLiterals :=
  hasJsonLiterals_of_children rfl (List.forall_mem_map.mpr each)

/-- A node without literals and without nodes inside of it. -/
theorem hasJsonLiterals_of_leaf {node : TypeNode} (none : node.literals = [])
    (leaf : node.children = []) : node.HasJsonLiterals := by
  refine hasJsonLiterals_of_children none ?_
  rw [leaf]
  exact List.forall_mem_nil _

theorem hasJsonLiterals_empty (required : Bool) : (empty required).HasJsonLiterals :=
  hasJsonLiterals_of_leaf rfl rfl

end TypeNode

namespace Schema

variable {entries : List (Value × Value)} {required : Bool} {node : TypeNode}

theorem isOwnForm_of_mem_listed {value item : Value} (own : IsOwnForm value)
    (member : item ∈ listed value) : IsOwnForm item := by
  cases value with
  | list items => exact own.item item member
  | recurring content => exact (throughout_iff.mp own).1.1.elim
  | _ => cases member

theorem isOwnForm_of_mem_declared {value : Value} {entry : Value × Value} (own : IsOwnForm value)
    (member : entry ∈ declared value) : IsOwnForm entry.2 := by
  cases value with
  | map entries => exact own.entry entry member
  | recurring content => exact (throughout_iff.mp own).1.1.elim
  | _ => cases member

/-- A literal of a choice is an item of the schema. -/
theorem toJson_eq_of_mem_literals? {schema literal : Value} {literals : List Value}
    (own : IsOwnForm schema) (found : literals? schema = some literals)
    (member : literal ∈ literals) : literal.toJson = .ok literal := by
  obtain ⟨field, at_key, listed⟩ := Option.bind_eq_some_iff.mp found
  exact toJson_eq_self ((own.field? at_key).items? listed literal member)

/-- A schema that has a node with such literals if it is its own JSON form. -/
def MapsToJson (schema : Value) : Prop :=
  IsOwnForm schema → ∀ required node, map required schema = .ok node → node.HasJsonLiterals

theorem hasJsonLiterals_of_mapItems (own : IsOwnForm (.map entries))
    (inside : ∀ part ∈ (Value.fieldOf "items" entries).toList, MapsToJson part)
    (mapped : mapItems entries = .ok node) : node.HasJsonLiterals := by
  rw [mapItems_eq] at mapped
  cases found : Value.fieldOf "items" entries with
  | none =>
      rw [found] at mapped
      obtain rfl := Except.ok.inj mapped
      exact hasJsonLiterals_empty false
  | some part =>
      rw [found] at mapped inside
      exact inside part List.mem_cons_self (own.fieldOf found) false node mapped

theorem hasJsonLiterals_of_mapProperties {names : List Value} {found : List (String × TypeNode)}
    (own : IsOwnForm (.map entries))
    (inside : ∀ part ∈ (properties entries).map Prod.snd, MapsToJson part)
    (mapped : mapProperties names entries = .ok found) :
    ∀ property ∈ found, property.2.HasJsonLiterals := by
  intro property member
  have backward := (entries_of_mapProperties mapped).flip
  obtain ⟨entry, listed, _, made⟩ := exists_of_forall₂ backward member
  refine inside entry.2 (List.mem_map_of_mem listed) ?_ _ _ made
  rw [properties] at listed
  cases field : Value.fieldOf "properties" entries with
  | none =>
      rw [field] at listed
      cases listed
  | some value =>
      rw [field] at listed
      exact isOwnForm_of_mem_declared (own.fieldOf field) listed

theorem hasJsonLiterals_of_mapMembers {nodes : List TypeNode} (own : IsOwnForm (.map entries))
    (inside : ∀ part ∈ ((Value.fieldOf "allOf" entries).map listed).getD [], MapsToJson part)
    (mapped : mapMembers entries = .ok nodes) : ∀ node ∈ nodes, node.HasJsonLiterals := by
  intro node member
  have backward := (nodes_of_mapMembers mapped).flip
  obtain ⟨part, present, made⟩ := exists_of_forall₂ backward member
  refine inside part present ?_ _ _ made
  cases field : Value.fieldOf "allOf" entries with
  | none =>
      rw [field] at present
      cases present
  | some value =>
      rw [field] at present
      exact isOwnForm_of_mem_listed (own.fieldOf field) present

/-- The members of a composition leave their properties to the node. -/
theorem hasJsonLiterals_mergedObject {nodes : List TypeNode}
    (each : ∀ node ∈ nodes, node.HasJsonLiterals) :
    (mergedObject required nodes).HasJsonLiterals := by
  rw [mergedObject, merge_eq]
  refine hasJsonLiterals_object fun property member => ?_
  obtain ⟨node, listed, inside⟩ := List.mem_flatMap.mp (mem_of_mem_putProperties_nil member)
  cases node with
  | object _ properties _ =>
      exact (throughout_iff.mp (each _ listed)).2 _ (List.mem_map_of_mem inside)
  | _ => cases inside

/-- A schema that is its own JSON form has a node whose literals are theirs, if its parts do. -/
theorem mapsToJson_of_parts (schema : Value) (inside : ∀ part ∈ parts schema, MapsToJson part) :
    MapsToJson schema := by
  intro own required node mapped
  cases schema with
  | map entries =>
      rw [parts.eq_def] at inside
      dsimp only at inside
      rw [map] at mapped
      cases shaped : shape (.map entries) with
      | ref | scalar | empty =>
          rw [shaped] at mapped
          obtain rfl := Except.ok.inj mapped
          exact hasJsonLiterals_of_leaf rfl rfl
      | choice =>
          rw [shaped] at mapped
          obtain rfl := Except.ok.inj mapped
          refine throughout_iff.mpr ⟨fun literal member => ?_, List.forall_mem_nil _⟩
          cases found : literals? (.map entries) with
          | none =>
              rw [found] at member
              cases member
          | some literals =>
              rw [found] at member
              exact toJson_eq_of_mem_literals? own found member
      | allOf =>
          rw [shaped] at mapped inside
          obtain ⟨nodes, found, made⟩ := bind_eq_ok.mp mapped
          obtain rfl := Except.ok.inj made
          exact hasJsonLiterals_mergedObject (hasJsonLiterals_of_mapMembers own inside found)
      | array =>
          rw [shaped] at mapped inside
          obtain ⟨items, found, made⟩ := bind_eq_ok.mp mapped
          obtain rfl := Except.ok.inj made
          refine hasJsonLiterals_of_children rfl (List.forall_mem_singleton.mpr ?_)
          exact hasJsonLiterals_of_mapItems own inside found
      | object =>
          rw [shaped] at mapped inside
          obtain ⟨found, declares, made⟩ := bind_eq_ok.mp mapped
          obtain rfl := Except.ok.inj made
          have each := hasJsonLiterals_of_mapProperties own inside declares
          exact hasJsonLiterals_object fun property member =>
            each property (mem_of_mem_putProperties_nil member)
  | recurring content => exact (throughout_iff.mp own).1.1.elim
  | _ =>
      obtain rfl := Except.ok.inj mapped
      exact hasJsonLiterals_empty required

/-- A schema that is its own JSON form has a node whose literals are theirs. -/
theorem hasJsonLiterals_of_map {schema : Value} (own : IsOwnForm schema)
    (mapped : map required schema = .ok node) : node.HasJsonLiterals :=
  forall_of_parts mapsToJson_of_parts schema own required node mapped

end Schema

end ClientGen

namespace ClientGen.Api

open Json Schema TypeNode

variable {document : Value}

/-! ## Definitions -/

theorem isOwnForm_of_mem_definitionEntries (own : IsOwnForm document) {entry : Value × Value}
    (member : entry ∈ definitionEntries document) : IsOwnForm entry.2 := by
  rw [definitionEntries] at member
  cases found : (document.field? "definitions").bind Value.entries? with
  | none =>
      rw [found] at member
      cases member
  | some entries =>
      obtain ⟨field, at_key, inside⟩ := Option.bind_eq_some_iff.mp found
      rw [found] at member
      exact (own.field? at_key).entries? inside entry member

theorem hasJsonLiterals_definition (own : IsOwnForm document) {list : List Definition}
    (extracted : definitions document = .ok list) :
    ∀ found ∈ list, found.schema.HasJsonLiterals := by
  intro found member
  obtain ⟨entry, inside, made⟩ := exists_of_forall₂ (definitions_eq_ok.mp extracted).flip member
  exact hasJsonLiterals_of_map (isOwnForm_of_mem_definitionEntries own inside)
    (definition_eq_ok.mp made).2

/-! ## Parts of operations -/

theorem isOwnForm_null : IsOwnForm .null := throughout_iff.mpr ⟨⟨trivial, trivial⟩, nofun⟩

theorem isOwnForm_getD_field? (own : IsOwnForm document) (name : String) :
    IsOwnForm ((document.field? name).getD .null) := by
  cases found : document.field? name with
  | none => exact isOwnForm_null
  | some field => exact own.field? found

section Parameters

variable {parameters : List Value} (own : ∀ parameter ∈ parameters, IsOwnForm parameter)
include own

theorem hasJsonLiterals_parameterProperties {properties : List (String × TypeNode)}
    (extracted : parameterProperties parameters = .ok properties) :
    ∀ property ∈ properties, property.2.HasJsonLiterals := by
  obtain ⟨list, mapped, made⟩ := bind_eq_ok.mp extracted
  rw [← Except.ok.inj made]
  intro property member
  obtain ⟨parameter, listed, found⟩ :=
    exists_of_forall₂ (mapM_eq_ok.mp mapped).flip (mem_of_mem_putProperties_nil member)
  obtain ⟨node, mapped, found⟩ := bind_eq_ok.mp found
  obtain ⟨name, _, made⟩ := bind_eq_ok.mp found
  rw [← Except.ok.inj made]
  exact hasJsonLiterals_of_map (own parameter listed) mapped

theorem hasJsonLiterals_bodyNode {body : Option TypeNode}
    (extracted : bodyNode parameters = .ok body) : ∀ node ∈ body, node.HasJsonLiterals := by
  cases parameters with
  | nil =>
      rw [← Except.ok.inj extracted]
      exact nofun
  | cons first rest =>
      obtain ⟨node, mapped, made⟩ := bind_eq_ok.mp extracted
      rw [← Except.ok.inj made]
      rintro _ ⟨⟩
      exact hasJsonLiterals_of_map (isOwnForm_getD_field? (own first List.mem_cons_self) _) mapped

end Parameters

theorem hasJsonLiterals_responseNode {response : Value} {node : TypeNode} (own : IsOwnForm response)
    (extracted : responseNode response = .ok node) : node.HasJsonLiterals := by
  rw [responseNode] at extracted
  split at extracted
  · next schema found =>
      exact hasJsonLiterals_of_map (own.field? (Value.given?_eq_some found)) extracted
  · rw [← Except.ok.inj extracted]
    exact hasJsonLiterals_empty false

theorem isOwnForm_responseFor {code : Nat} {responses : List (Value × Value)} {response : Value}
    (own : IsOwnForm (.map responses))
    (found : Value.given? (responseFor code responses) = some response) : IsOwnForm response := by
  obtain ⟨held, present, rfl⟩ := Option.map_eq_some_iff.mp (Value.given?_eq_some found)
  have inside : IsOwnForm held := by
    rcases Option.or_eq_some_iff.mp present with text | ⟨_, number⟩
    · exact own.fieldOf text
    · obtain ⟨key, member⟩ := Value.mem_of_lookup number
      exact own.entry _ member
  rwa [inside.opened]

theorem hasJsonLiterals_response {responses : Value} {node : TypeNode} (own : IsOwnForm responses)
    (extracted : response responses = .ok node) : node.HasJsonLiterals := by
  cases responses with
  | map entries =>
      rw [response] at extracted
      split at extracted
      · next given found =>
          exact hasJsonLiterals_responseNode (isOwnForm_responseFor own found) extracted
      · split at extracted
        · next given found =>
            exact hasJsonLiterals_responseNode (isOwnForm_responseFor own found) extracted
        · rw [← Except.ok.inj extracted]
          exact hasJsonLiterals_empty false
  | _ =>
      cases extracted
      exact hasJsonLiterals_empty false

/-! ## Operations -/

theorem isOwnForm_of_mem_parameters {candidate : Candidate} (own : IsOwnForm candidate.operation)
    (place : Place) : ∀ parameter ∈ parametersIn place candidate.parameters,
      IsOwnForm parameter := by
  intro parameter member
  have listed := (List.mem_filter.mp member).1
  rw [Candidate.parameters] at listed
  cases found : (candidate.operation.field? "parameters").bind Value.items? with
  | none =>
      rw [found] at listed
      cases listed
  | some items =>
      obtain ⟨field, at_key, held⟩ := Option.bind_eq_some_iff.mp found
      rw [found] at listed
      exact (own.field? at_key).items? held parameter listed

theorem hasJsonLiterals_made {candidate : Candidate} {name : String} {operation : Operation}
    (own : IsOwnForm candidate.operation) (made : candidate.Made name operation) :
    ∀ node ∈ operation.nodes, node.HasJsonLiterals := by
  have inside := isOwnForm_of_mem_parameters own
  have path := hasJsonLiterals_parameterProperties (inside .path) made.pathParameters
  have query := hasJsonLiterals_parameterProperties (inside .query) made.queryParameters
  have body := hasJsonLiterals_bodyNode (inside .body) made.body
  have answer := hasJsonLiterals_response (isOwnForm_getD_field? own _) made.response
  rw [Operation.nodes]
  simp only [List.forall_mem_append, List.forall_mem_cons, Option.mem_toList]
  refine ⟨⟨⟨?_, ?_, List.forall_mem_nil _⟩, body⟩, answer, List.forall_mem_nil _⟩
  · exact hasJsonLiterals_object path
  · exact hasJsonLiterals_object query

theorem isOwnForm_of_mem_pathEntries (own : IsOwnForm document) {entries : List (Value × Value)}
    (found : paths document = .ok entries) {item : Value × Value × Value}
    (member : item ∈ pathEntries entries) : IsOwnForm item.2.2 := by
  obtain ⟨pathItem, listed, inside⟩ := List.mem_flatMap.mp member
  obtain ⟨entry, held, rfl⟩ := List.mem_map.mp inside
  have item_own : IsOwnForm pathItem.2 := by
    rw [paths] at found
    split at found
    · cases found
    · next field given =>
        split at found
        · next inner entries_eq =>
            rw [← Except.ok.inj found] at listed
            exact (own.field? (Value.given?_eq_some given)).entries? entries_eq pathItem listed
        · cases found
  cases methods : pathItem.2.entries? with
  | none =>
      rw [methods] at held
      cases held
  | some fields =>
      rw [methods] at held
      exact item_own.entries? methods entry held

theorem hasJsonLiterals_operation (own : IsOwnForm document) {spec : Spec}
    (extracted : (extract document).result = .ok spec) :
    ∀ operation ∈ spec.operations, ∀ node ∈ operation.nodes, node.HasJsonLiterals := by
  intro operation member
  obtain ⟨candidate, entry⟩ := exists_extracts extracted member
  obtain ⟨entries, found, item, listed, chosen⟩ := entry.listed
  obtain ⟨name, built⟩ := Candidate.exists_build_of_extract entry.extracted
  refine hasJsonLiterals_made ?_ (Candidate.made_of_build built).1
  rw [operation_of_candidate chosen]
  exact isOwnForm_of_mem_pathEntries own found listed

end ClientGen.Api
