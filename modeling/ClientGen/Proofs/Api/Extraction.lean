import ClientGen.Api.Extraction
import ClientGen.Proofs.Schema.Mapping
import ClientGen.Proofs.Schema.Properties
import ClientGen.Proofs.Value.Pointers

/-!
# References of extracted interfaces

The definitions and operations of an interface mention only names to which pointers of the document
lead. If all pointers lead to entries of the definitions, all names that are mentioned are defined.
The parameters of an operation are those of its entry.
-/

namespace ClientGen.Api

open Schema

/-! ## Definitions -/

/-- The entries of a document that are definitions. -/
def definitionEntries (document : Value) : List (Value × Value) :=
  ((document.field? "definitions").bind Value.entries?).getD []

theorem definition_eq_ok {entry : Value × Value} {found : Definition} :
    definition entry = .ok found ↔
      entry.1.written = .ok found.name ∧ map false entry.2 = .ok found.schema := by
  rw [definition]
  constructor
  · intro made
    obtain ⟨name, written, made⟩ := bind_eq_ok.mp made
    obtain ⟨node, mapped, made⟩ := bind_eq_ok.mp made
    rw [← Except.ok.inj made]
    exact ⟨written, mapped⟩
  · rintro ⟨written, mapped⟩
    exact bind_eq_ok.mpr ⟨_, written, bind_eq_ok.mpr ⟨_, mapped, rfl⟩⟩

theorem definitions_eq_ok {document : Value} {list : List Definition} :
    definitions document = .ok list ↔
      List.Forall₂ (fun entry found => definition entry = .ok found) (definitionEntries document)
        list := mapM_eq_ok

theorem pointers_subset_of_mem_definitionEntries {document : Value} {entry : Value × Value}
    (member : entry ∈ definitionEntries document) : entry.2.pointers ⊆ document.pointers := by
  rw [definitionEntries] at member
  cases found : (document.field? "definitions").bind Value.entries? with
  | none =>
      rw [found] at member
      cases member
  | some entries =>
      obtain ⟨field, at_key, inside⟩ := Option.bind_eq_some_iff.mp found
      rw [found] at member
      exact List.Subset.trans (Value.pointers_subset_of_entries? inside member)
        (Value.pointers_subset_of_field? at_key)

/-- What a definition mentions is pointed to in the document. -/
theorem pointed_definition {document : Value} {list : List Definition}
    (extracted : definitions document = .ok list) {found : Definition} (member : found ∈ list) :
    Pointed document.pointers found.schema.mentions := by
  obtain ⟨entry, inside, made⟩ := exists_of_forall₂ (definitions_eq_ok.mp extracted).flip member
  have mapped := (definition_eq_ok.mp made).2
  exact (pointed_map false entry.2 mapped).mono (pointers_subset_of_mem_definitionEntries inside)

/-- The name of an entry is the name of a definition. -/
theorem name_mem_definitions {document : Value} {list : List Definition}
    (extracted : definitions document = .ok list) {entry : Value × Value}
    (member : entry ∈ definitionEntries document) {name : String}
    (written : entry.1.written = .ok name) : name ∈ list.map (·.name) := by
  obtain ⟨found, inside, made⟩ := exists_of_forall₂ (definitions_eq_ok.mp extracted) member
  have same := (definition_eq_ok.mp made).1
  rw [Except.ok.inj (written.symm.trans same)]
  exact List.mem_map_of_mem inside

/-! ## Operations -/

theorem pointed_parameterProperties {parameters : List Value}
    {properties : List (String × TypeNode)} {pointers : List String}
    (extracted : parameterProperties parameters = .ok properties)
    (inside : ∀ parameter ∈ parameters, parameter.pointers ⊆ pointers) :
    Pointed pointers (TypeNode.mentionsOfProperties properties) := by
  obtain ⟨list, mapped, made⟩ := bind_eq_ok.mp extracted
  rw [← Except.ok.inj made]
  refine pointed_putProperties ?_
  have each := mapM_eq_ok.mp mapped
  clear mapped made extracted
  induction each with
  | nil => exact Pointed.nil _
  | @cons parameter property rest others first _ ih =>
      obtain ⟨node, mapped, first⟩ := bind_eq_ok.mp first
      obtain ⟨name, _, made⟩ := bind_eq_ok.mp first
      rw [← Except.ok.inj made, TypeNode.mentionsOfProperties]
      refine Pointed.append ?_ (ih fun item member => inside item (List.mem_cons_of_mem _ member))
      exact (pointed_map _ parameter mapped).mono (inside parameter List.mem_cons_self)

theorem pointed_bodyNode {parameters : List Value} {body : Option TypeNode} {pointers : List String}
    (extracted : bodyNode parameters = .ok body)
    (inside : ∀ parameter ∈ parameters, parameter.pointers ⊆ pointers) :
    Pointed pointers (body.toList.flatMap TypeNode.mentions) := by
  cases parameters with
  | nil =>
      rw [← Except.ok.inj extracted]
      exact Pointed.nil _
  | cons first rest =>
      obtain ⟨node, mapped, made⟩ := bind_eq_ok.mp extracted
      rw [← Except.ok.inj made, Option.toList_some, List.flatMap_singleton]
      refine (pointed_map _ _ mapped).mono ?_
      cases found : first.field? "schema" with
      | none => exact List.nil_subset _
      | some schema =>
          exact List.Subset.trans (Value.pointers_subset_of_field? found)
            (inside first List.mem_cons_self)

theorem pointed_responseNode {response : Value} {node : TypeNode}
    (extracted : responseNode response = .ok node) :
    Pointed response.pointers node.mentions := by
  rw [responseNode] at extracted
  split at extracted
  · next schema found =>
      exact (pointed_map false schema extracted).mono (Value.pointers_subset_of_givenField? found)
  · rw [← Except.ok.inj extracted]
    exact Pointed.nil _

theorem pointers_subset_of_responseFor {code : Nat} {responses : List (Value × Value)}
    {response : Value} (found : Value.given? (responseFor code responses) = some response) :
    response.pointers ⊆ Value.pointersOfEntries responses := by
  obtain ⟨held, present, rfl⟩ := Option.map_eq_some_iff.mp (Value.given?_eq_some found)
  rw [Value.pointers_opened]
  rcases Option.or_eq_some_iff.mp present with text | ⟨_, number⟩
  · exact Value.pointers_subset_of_mem_entries (Value.mem_of_fieldOf text)
  · obtain ⟨key, member⟩ := Value.mem_of_lookup number
    exact Value.pointers_subset_of_mem_entries member

theorem pointed_response {responses : Value} {node : TypeNode}
    (extracted : response responses = .ok node) : Pointed responses.pointers node.mentions := by
  cases responses with
  | map entries =>
      rw [response] at extracted
      rw [Value.pointers]
      split at extracted
      · next given found =>
          exact (pointed_responseNode extracted).mono (pointers_subset_of_responseFor found)
      · split at extracted
        · next given found =>
            exact (pointed_responseNode extracted).mono (pointers_subset_of_responseFor found)
        · rw [← Except.ok.inj extracted]
          exact Pointed.nil _
  | _ =>
      cases extracted
      exact Pointed.nil _

namespace Candidate

/-- What an operation is made of. -/
structure Made (candidate : Candidate) (name : String) (operation : Operation) : Prop where
  name : operation.name = name
  path : propertyName? candidate.path = some operation.path
  method : operation.method = candidate.method
  summary : Value.writtenGiven (candidate.operation.field? "summary") = .ok operation.summary
  response : Api.response ((candidate.operation.field? "responses").getD .null) =
    .ok operation.response
  pathParameters : parameterProperties (parametersIn .path candidate.parameters) =
    .ok operation.pathParameters
  queryParameters : parameterProperties (parametersIn .query candidate.parameters) =
    .ok operation.queryParameters
  body : bodyNode (parametersIn .body candidate.parameters) = .ok operation.body

/-- An operation is made of the parts of its entry, which leaves records about parameters. -/
theorem made_of_build {candidate : Candidate} {name : String} {operation : Operation}
    (built : (candidate.build name).result = .ok operation) :
    candidate.Made name operation ∧ (candidate.build name).logs =
      ignoredParameters name candidate.parameters ++
        extraBodies name (parametersIn .body candidate.parameters) := by
  rw [build] at built ⊢
  obtain ⟨_, ignored, built⟩ := Logged.result_bind_eq_ok.mp built
  obtain ⟨summary, summaryFound, built⟩ := Logged.result_bind_eq_ok.mp built
  obtain ⟨answer, answerFound, built⟩ := Logged.result_bind_eq_ok.mp built
  obtain ⟨path, pathFound, built⟩ := Logged.result_bind_eq_ok.mp built
  obtain ⟨query, queryFound, built⟩ := Logged.result_bind_eq_ok.mp built
  obtain ⟨_, warned, built⟩ := Logged.result_bind_eq_ok.mp built
  obtain ⟨body, bodyFound, built⟩ := Logged.result_bind_eq_ok.mp built
  rw [Logged.logs_bind_of_ok ignored, Logged.logs_bind_of_ok summaryFound,
    Logged.logs_bind_of_ok answerFound, Logged.logs_bind_of_ok pathFound,
    Logged.logs_bind_of_ok queryFound, Logged.logs_bind_of_ok warned,
    Logged.logs_bind_of_ok bodyFound]
  simp only [Logged.logs_ofFaulty, List.nil_append]
  split at built
  · cases built
  · next text named =>
      rw [← Logged.result_return_eq_ok.mp built]
      refine ⟨⟨rfl, named, rfl, ?_, ?_, ?_, ?_, ?_⟩, ?_⟩
      · exact Logged.result_ofFaulty_eq_ok.mp summaryFound
      · exact Logged.result_ofFaulty_eq_ok.mp answerFound
      · exact Logged.result_ofFaulty_eq_ok.mp pathFound
      · exact Logged.result_ofFaulty_eq_ok.mp queryFound
      · exact Logged.result_ofFaulty_eq_ok.mp bodyFound
      · simp
/-- The names that the nodes of an operation mention. -/
theorem pointed_build {candidate : Candidate} {name : String} {operation : Operation}
    (built : (candidate.build name).result = .ok operation) :
    Pointed candidate.operation.pointers (operation.nodes.flatMap TypeNode.mentions) := by
  have inside : ∀ place, ∀ parameter ∈ parametersIn place candidate.parameters,
      parameter.pointers ⊆ candidate.operation.pointers := by
    intro place parameter member
    have listed := (List.mem_filter.mp member).1
    rw [Candidate.parameters] at listed
    cases found : (candidate.operation.field? "parameters").bind Value.items? with
    | none =>
        rw [found] at listed
        cases listed
    | some items =>
        obtain ⟨field, at_key, held⟩ := Option.bind_eq_some_iff.mp found
        rw [found] at listed
        exact List.Subset.trans (Value.pointers_subset_of_items? held listed)
          (Value.pointers_subset_of_field? at_key)
  have made := (made_of_build built).1
  have pathPointed := pointed_parameterProperties made.pathParameters (inside .path)
  have queryPointed := pointed_parameterProperties made.queryParameters (inside .query)
  have bodyPointed := pointed_bodyNode made.body (inside .body)
  have answerPointed : Pointed candidate.operation.pointers operation.response.mentions := by
    refine (pointed_response made.response).mono ?_
    cases found : candidate.operation.field? "responses" with
    | none => exact List.nil_subset _
    | some responses => exact Value.pointers_subset_of_field? found
  simp only [Operation.nodes, Operation.pathNode, Operation.queryNode, List.flatMap_append,
    List.flatMap_cons, List.flatMap_nil, List.append_nil, TypeNode.mentions, List.nil_append]
  exact ((pathPointed.append queryPointed).append bodyPointed).append answerPointed

/-- An operation that is extracted is built under some name. -/
theorem exists_build_of_extract {candidate : Candidate} {operation : Operation}
    (extracted : candidate.extract.result = .ok (some operation)) :
    ∃ name, (candidate.build name).result = .ok operation := by
  obtain ⟨name, _, extracted⟩ := Logged.result_bind_eq_ok.mp extracted
  split at extracted
  · cases extracted
  · obtain ⟨built, found, made⟩ := Logged.result_bind_eq_ok.mp extracted
    rw [← Option.some.inj (Logged.result_return_eq_ok.mp made)]
    exact ⟨name, found⟩

theorem pointed_extract {candidate : Candidate} {operation : Operation}
    (extracted : candidate.extract.result = .ok (some operation)) :
    Pointed candidate.operation.pointers (operation.nodes.flatMap TypeNode.mentions) := by
  obtain ⟨_, built⟩ := exists_build_of_extract extracted
  exact pointed_build built

end Candidate

/-- An entry that is an operation has its operation as its value. -/
theorem operation_of_candidate {path : Value} {entry : Value × Value} {found : Candidate}
    (made : candidate path entry = .ok (some found)) : found.operation = entry.2 := by
  obtain ⟨method, named, made⟩ := bind_eq_ok.mp made
  clear named
  split at made
  · next fields content =>
      rw [← Option.some.inj (Except.ok.inj made), content]
  · cases made

theorem pointers_subset_of_mem_pathEntries {document : Value} {entries : List (Value × Value)}
    (found : paths document = .ok entries) {item : Value × Value × Value}
    (member : item ∈ pathEntries entries) : item.2.2.pointers ⊆ document.pointers := by
  obtain ⟨pathItem, listed, inside⟩ := List.mem_flatMap.mp member
  obtain ⟨entry, held, rfl⟩ := List.mem_map.mp inside
  have item_subset : pathItem.2.pointers ⊆ document.pointers := by
    rw [paths] at found
    split at found
    · cases found
    · next field given =>
        split at found
        · next inner entries_eq =>
            rw [← Except.ok.inj found] at listed
            exact List.Subset.trans (Value.pointers_subset_of_entries? entries_eq listed)
              (Value.pointers_subset_of_givenField? given)
        · cases found
  refine List.Subset.trans ?_ item_subset
  cases methods : pathItem.2.entries? with
  | none =>
      rw [methods] at held
      cases held
  | some fields =>
      rw [methods] at held
      exact Value.pointers_subset_of_entries? methods held

theorem pointed_operationAt {path : Value} {entry : Value × Value} {operation : Operation}
    (extracted : (operationAt path entry).result = .ok (some operation)) :
    Pointed entry.2.pointers (operation.nodes.flatMap TypeNode.mentions) := by
  obtain ⟨found, made, extracted⟩ := Logged.result_bind_eq_ok.mp extracted
  cases found with
  | none => cases Logged.result_return_eq_ok.mp extracted
  | some found =>
      rw [← operation_of_candidate (Logged.result_ofFaulty_eq_ok.mp made)]
      exact Candidate.pointed_extract extracted

/-- What an operation mentions is pointed to in the document. -/
theorem pointed_operation {document : Value} {entries : List (Value × Value)}
    {list : List Operation} (found : paths document = .ok entries)
    (extracted : (operations entries).result = .ok list) {operation : Operation}
    (member : operation ∈ list) :
    Pointed document.pointers (operation.nodes.flatMap TypeNode.mentions) := by
  obtain ⟨results, done, made⟩ := Logged.result_bind_eq_ok.mp extracted
  rw [← Logged.result_return_eq_ok.mp made, List.mem_filterMap] at member
  obtain ⟨result, inside, rfl⟩ := member
  obtain ⟨item, listed, from_item⟩ :=
    exists_of_forall₂ (Logged.forEach_eq_ok.mp done).flip inside
  exact (pointed_operationAt from_item).mono (pointers_subset_of_mem_pathEntries found listed)

/-! ## Documents -/

theorem extract_eq_ok {document : Value} {spec : Spec}
    (extracted : (extract document).result = .ok spec) :
    definitions document = .ok spec.definitions ∧ ∃ entries, paths document = .ok entries ∧
      (operations entries).result = .ok spec.operations := by
  rw [extract] at extracted
  split at extracted
  · cases extracted
  · split at extracted
    · cases extracted
    · next version _ entries found =>
        obtain ⟨info, _, extracted⟩ := Logged.result_bind_eq_ok.mp extracted
        obtain ⟨list, defined, extracted⟩ := Logged.result_bind_eq_ok.mp extracted
        obtain ⟨others, operated, made⟩ := Logged.result_bind_eq_ok.mp extracted
        rw [← Logged.result_return_eq_ok.mp made]
        exact ⟨Logged.result_ofFaulty_eq_ok.mp defined, entries, found, operated⟩

/-- A document whose pointers all lead to definitions that it has. -/
def PointsInside (document : Value) : Prop :=
  ∀ pointer ∈ document.pointers, ∃ entry ∈ definitionEntries document, ∃ name,
    entry.1.written = .ok name ∧ pointer = Pointer.toDefinition name

/-- An interface whose definitions and operations mention only definitions that it has. -/
structure Spec.Resolved (spec : Spec) : Prop where
  definitions : ∀ definition ∈ spec.definitions, ∀ name ∈ definition.schema.mentions,
    name ∈ spec.definitions.map (·.name)
  operations : ∀ operation ∈ spec.operations, ∀ node ∈ operation.nodes,
    ∀ name ∈ node.mentions, name ∈ spec.definitions.map (·.name)

/-- The interface of a document whose pointers lead to its definitions mentions only those. -/
theorem resolved_of_pointsInside {document : Value} {spec : Spec}
    (inside : PointsInside document) (extracted : (extract document).result = .ok spec) :
    spec.Resolved := by
  obtain ⟨defined, entries, found, operated⟩ := extract_eq_ok extracted
  have resolve : ∀ {names : List String}, Pointed document.pointers names → ∀ name ∈ names,
      name ∈ spec.definitions.map (·.name) := by
    intro names pointed name member
    obtain ⟨pointer, present, rfl⟩ := List.mem_map.mp (pointed member)
    obtain ⟨entry, listed, name, written, rfl⟩ := inside pointer present
    rw [Pointer.name_toDefinition]
    exact name_mem_definitions defined listed written
  refine ⟨fun definition member => resolve (pointed_definition defined member), ?_⟩
  intro operation member node listed name mentioned
  exact resolve (pointed_operation found operated member) name
    (List.mem_flatMap.mpr ⟨node, listed, mentioned⟩)

end ClientGen.Api

/-!
## Parameters of extracted operations

An operation of an interface comes from an entry of the paths of its document. The properties of its
path object are named like the parameters that the entry declares for the path, each name once.
-/

namespace ClientGen.Api

/-- A name that an entry declares a parameter for in a place. -/
def Candidate.DeclaresIn (candidate : Candidate) (place : Place) (name : String) : Prop :=
  ∃ parameter ∈ candidate.parameters,
    place? parameter = some place ∧ parameterName parameter = .ok name

theorem parameterProperty_eq_ok {parameter : Value} {property : String × TypeNode}
    (made : parameterProperty parameter = .ok property) :
    parameterName parameter = .ok property.1 := by
  obtain ⟨node, _, made⟩ := bind_eq_ok.mp made
  obtain ⟨name, named, made⟩ := bind_eq_ok.mp made
  rw [← Except.ok.inj made]
  exact named

/-- The properties that parameters give are named like the parameters. -/
theorem mem_map_fst_parameterProperties {parameters : List Value}
    {properties : List (String × TypeNode)}
    (made : parameterProperties parameters = .ok properties) {name : String} :
    name ∈ properties.map Prod.fst ↔
      ∃ parameter ∈ parameters, parameterName parameter = .ok name := by
  obtain ⟨list, mapped, made⟩ := bind_eq_ok.mp made
  have each := mapM_eq_ok.mp mapped
  rw [← Except.ok.inj made, TypeNode.mem_map_fst_putProperties, List.map_nil, List.mem_map]
  constructor
  · rintro (none | ⟨property, member, rfl⟩)
    · cases none
    · obtain ⟨parameter, listed, found⟩ := exists_of_forall₂ each.flip member
      exact ⟨parameter, listed, parameterProperty_eq_ok found⟩
  · rintro ⟨parameter, listed, named⟩
    obtain ⟨property, member, found⟩ := exists_of_forall₂ each listed
    have same := named.symm.trans (parameterProperty_eq_ok found)
    exact Or.inr ⟨property, member, (Except.ok.inj same).symm⟩

theorem nodup_parameterProperties {parameters : List Value}
    {properties : List (String × TypeNode)}
    (made : parameterProperties parameters = .ok properties) :
    (properties.map Prod.fst).Nodup := by
  obtain ⟨list, _, made⟩ := bind_eq_ok.mp made
  rw [← Except.ok.inj made]
  exact TypeNode.nodup_putProperties List.nodup_nil

/-! ## Operations -/

/-- What an operation has of the entry that it is built from. -/
structure Candidate.Builds (candidate : Candidate) (operation : Operation) : Prop where
  path : Schema.propertyName? candidate.path = some operation.path
  pathParameters : parameterProperties (parametersIn .path candidate.parameters) =
    .ok operation.pathParameters
  queryParameters : parameterProperties (parametersIn .query candidate.parameters) =
    .ok operation.queryParameters

theorem Candidate.builds_of_build {candidate : Candidate} {name : String} {operation : Operation}
    (built : (candidate.build name).result = .ok operation) : candidate.Builds operation := by
  have made := (made_of_build built).1
  exact ⟨made.path, made.pathParameters, made.queryParameters⟩

theorem Candidate.builds_of_extract {candidate : Candidate} {operation : Operation}
    (extracted : candidate.extract.result = .ok (some operation)) :
    candidate.Builds operation := by
  obtain ⟨_, built⟩ := Candidate.exists_build_of_extract extracted
  exact Candidate.builds_of_build built

/-- An entry of the paths of a document that an operation is extracted from. -/
structure Extracts (document : Value) (candidate : Candidate) (operation : Operation) : Prop where
  listed : ∃ entries, paths document = .ok entries ∧
    ∃ item ∈ pathEntries entries, Api.candidate item.1 item.2 = .ok (some candidate)
  extracted : candidate.extract.result = .ok (some operation)

/-- Every operation of an interface comes from its document. -/
theorem exists_extracts {document : Value} {spec : Spec}
    (extracted : (extract document).result = .ok spec) {operation : Operation}
    (member : operation ∈ spec.operations) :
    ∃ candidate, Extracts document candidate operation := by
  obtain ⟨_, entries, found, operated⟩ := extract_eq_ok extracted
  obtain ⟨results, done, made⟩ := Logged.result_bind_eq_ok.mp operated
  rw [← Logged.result_return_eq_ok.mp made, List.mem_filterMap] at member
  obtain ⟨result, inside, rfl⟩ := member
  obtain ⟨item, listed, from_item⟩ :=
    exists_of_forall₂ (Logged.forEach_eq_ok.mp done).flip inside
  obtain ⟨choice, chosen, from_choice⟩ := Logged.result_bind_eq_ok.mp from_item
  cases choice with
  | none => cases Logged.result_return_eq_ok.mp from_choice
  | some candidate =>
      exact ⟨candidate, ⟨entries, found, item, listed, Logged.result_ofFaulty_eq_ok.mp chosen⟩,
        from_choice⟩

namespace Extracts

variable {document : Value} {candidate : Candidate} {operation : Operation}

/-- The path object of an operation has a property for each parameter that is declared for the
path, and no others. -/
theorem mem_pathParameters (extracts : Extracts document candidate operation) {name : String} :
    name ∈ operation.pathParameters.map Prod.fst ↔ candidate.DeclaresIn .path name := by
  have built := Candidate.builds_of_extract extracts.extracted
  rw [mem_map_fst_parameterProperties built.pathParameters]
  constructor
  · rintro ⟨parameter, member, named⟩
    obtain ⟨listed, here⟩ := List.mem_filter.mp member
    exact ⟨parameter, listed, of_decide_eq_true here, named⟩
  · rintro ⟨parameter, listed, here, named⟩
    exact ⟨parameter, List.mem_filter.mpr ⟨listed, decide_eq_true here⟩, named⟩

theorem nodup_pathParameters (extracts : Extracts document candidate operation) :
    (operation.pathParameters.map Prod.fst).Nodup :=
  nodup_parameterProperties (Candidate.builds_of_extract extracts.extracted).pathParameters

end Extracts

end ClientGen.Api
