import ClientGen.Proofs.Client.Rendering
import ClientGen.Proofs.TypeScript.Respelled

/-!
# Clients under a naming convention

A naming convention renames and does nothing else: the client under a convention is the one that
keeps all names, made for the interface whose names are spelled beforehand.
-/

namespace ClientGen

/-! ## Interfaces with other names -/

namespace Api

open TypeScript

/-- The definition with every property name spelled by a convention. -/
def Definition.respelled (convention : Name.Convention) (definition : Definition) : Definition :=
  { definition with schema := definition.schema.respelled convention }

/-- The operation with every property name, and every name in braces in its path, spelled by a
convention. -/
def Operation.respelled (convention : Name.Convention) (operation : Operation) : Operation :=
  { operation with
    path := respelledPath convention operation.path
    response := operation.response.respelled convention
    pathParameters := (operation.pathNode.respelled convention).properties
    queryParameters := (operation.queryNode.respelled convention).properties
    body := operation.body.map (TypeNode.respelled convention) }

/-- The interface with every property name, and every name in braces in a path, spelled by a
convention. -/
def Spec.respelled (convention : Name.Convention) (spec : Spec) : Spec :=
  { spec with
    definitions := spec.definitions.map (Definition.respelled convention)
    operations := spec.operations.map (Operation.respelled convention) }

/-- An interface in which no two properties of one object, at any depth, have names that a
convention spells alike. -/
structure Spec.KeysApart (convention : Name.Convention) (spec : Spec) : Prop where
  definitions : ∀ definition ∈ spec.definitions, definition.schema.KeysApart convention
  operations : ∀ operation ∈ spec.operations,
    ∀ node ∈ operation.nodes, TypeNode.KeysApart convention node

theorem nodes_respelled (convention : Name.Convention) (operation : Operation) :
    (operation.respelled convention).nodes =
      operation.nodes.map (TypeNode.respelled convention) := by
  obtain ⟨_, _, _, _, _, _, _, _ | _⟩ := operation <;> rfl

end Api

namespace Client

open TypeScript

variable {convention : Name.Convention} {definition : Api.Definition} {operation : Api.Operation}

/-! ## Outlines -/

theorem referencesOfAll_respelled {nodes : List TypeNode}
    (apart : ∀ node ∈ nodes, TypeNode.KeysApart convention node) :
    TypeNode.referencesOfAll (nodes.map (TypeNode.respelled convention)) =
      TypeNode.referencesOfAll nodes := by
  rw [TypeNode.referencesOfAll, TypeNode.referencesOfAll,
    TypeNode.flatMap_references_respelled apart]

theorem checkedReferences_respelled (owner : String) (known : List String) {nodes : List TypeNode}
    (apart : ∀ node ∈ nodes, TypeNode.KeysApart convention node) :
    checkedReferences owner known (nodes.map (TypeNode.respelled convention)) =
      checkedReferences owner known nodes := by
  simp only [checkedReferences, TypeNode.flatMap_references_respelled apart]

/-- A definition has the outline that its respelled form has where all names are kept. -/
theorem definitionOutline_respelled (apart : definition.schema.KeysApart convention) :
    definitionOutline .preserve (definition.respelled convention) =
      definitionOutline convention definition := by
  have imports : definitionImportsOf (definition.respelled convention) =
      definitionImportsOf definition := by
    have names := referencesOfAll_respelled (List.forall_mem_singleton.mpr apart)
    rw [definitionImportsOf, definitionImportsOf, ← names]
    rfl
  rw [definitionOutline, definitionOutline, imports, Api.Definition.respelled,
    fragments_respelled _ _ _ apart]

theorem bodyParts_respelled {body : Option TypeNode}
    (apart : ∀ node ∈ body, TypeNode.KeysApart convention node) :
    bodyParts .preserve (body.map (TypeNode.respelled convention)) = bodyParts convention body := by
  cases body with
  | none => rfl
  | some node =>
      rw [Option.map_some, bodyParts, bodyParts, fragments_respelled _ _ _ (apart node rfl)]

theorem functionParts_respelled :
    functionParts .preserve (operation.respelled convention) =
      functionParts convention operation := by
  have path := pathLiteral_respelledPath convention operation.path "pathParameter"
  have body : (operation.respelled convention).body.isSome = operation.body.isSome :=
    Option.isSome_map
  have stem : typeStem (operation.respelled convention) = typeStem operation := rfl
  simp only [functionParts, headerParts, parameterParts, requestParts, body, stem]
  simp only [Api.Operation.respelled, path]

/-- An operation has the outline that its respelled form has where all names are kept. -/
theorem operationOutline_respelled (directory : String)
    (apart : ∀ node ∈ operation.nodes, TypeNode.KeysApart convention node) :
    operationOutline .preserve directory (operation.respelled convention) =
      operationOutline convention directory operation := by
  have imports : operationImportsOf directory (operation.respelled convention) =
      operationImportsOf directory operation := by
    rw [operationImportsOf, operationImportsOf, Api.nodes_respelled,
      referencesOfAll_respelled apart]
  have path : (operation.respelled convention).pathNode =
      operation.pathNode.respelled convention := rfl
  have query : (operation.respelled convention).queryNode =
      operation.queryNode.respelled convention := rfl
  have body : (operation.respelled convention).body =
      operation.body.map (TypeNode.respelled convention) := rfl
  have response : (operation.respelled convention).response =
      operation.response.respelled convention := rfl
  have stem : typeStem (operation.respelled convention) = typeStem operation := rfl
  have bodyApart : ∀ node ∈ operation.body, TypeNode.KeysApart convention node := by
    intro node present
    exact apart node (by simp [Api.Operation.nodes, Option.mem_def.mp present])
  rw [operationOutline, operationOutline, imports, functionParts_respelled, path, query, body,
    response, stem, fragments_respelled _ _ _ (apart _ (by simp [Api.Operation.nodes])),
    fragments_respelled _ _ _ (apart _ (by simp [Api.Operation.nodes])),
    fragments_respelled _ _ _ (apart _ (by simp [Api.Operation.nodes])),
    bodyParts_respelled bodyApart]

/-! ## Files -/

variable {settings : Settings}

/-- The same settings where all names are kept. -/
def Settings.keepingNames (settings : Settings) : Settings := { settings with naming := .preserve }

section

variable (root : Path) (known : List String)

theorem outlinedDefinition_respelled (apart : definition.schema.KeysApart settings.naming) :
    outlinedDefinition settings.keepingNames root known (definition.respelled settings.naming) =
      outlinedDefinition settings root known definition := by
  have checked := checkedReferences_respelled definition.name known
    (List.forall_mem_singleton.mpr apart)
  rw [outlinedDefinition, outlinedDefinition, outlinedText, outlinedText, ← checked,
    ← definitionOutline_respelled apart]
  rfl

theorem mapM_outlinedDefinition_respelled {definitions : List Api.Definition}
    (apart : ∀ definition ∈ definitions, definition.schema.KeysApart settings.naming) :
    (definitions.map (Api.Definition.respelled settings.naming)).mapM
        (outlinedDefinition settings.keepingNames root known) =
      definitions.mapM (outlinedDefinition settings root known) := by
  induction definitions with
  | nil => rw [List.map_nil, List.mapM_nil, List.mapM_nil]
  | cons definition rest ih =>
      obtain ⟨first, others⟩ := List.forall_mem_cons.mp apart
      rw [List.map_cons, List.mapM_cons, List.mapM_cons,
        outlinedDefinition_respelled root known first, ih others]

theorem outlinedText_respelled
    (apart : ∀ node ∈ operation.nodes, TypeNode.KeysApart settings.naming node) :
    outlinedText (operation.respelled settings.naming).name known
        (operation.respelled settings.naming).nodes
        (operationOutline settings.keepingNames.naming settings.keepingNames.definitionDir
          (operation.respelled settings.naming)) =
      outlinedText operation.name known operation.nodes
        (operationOutline settings.naming settings.definitionDir operation) := by
  have outline : operationOutline settings.keepingNames.naming settings.keepingNames.definitionDir
      (operation.respelled settings.naming) =
        operationOutline settings.naming settings.definitionDir operation :=
    operationOutline_respelled settings.definitionDir apart
  have name : (operation.respelled settings.naming).name = operation.name := rfl
  rw [outlinedText, outlinedText, Api.nodes_respelled, checkedReferences_respelled _ _ apart,
    outline, name]

theorem operationPlace_respelled (convention : Name.Convention) :
    operationPlace settings.keepingNames root (operation.respelled convention) =
      operationPlace settings root operation := rfl

/-- The files of operations agree. Their records need not: those about files that are overwritten
quote the path. -/
theorem result_outlinedOperations_respelled {operations : List Api.Operation}
    (apart : ∀ operation ∈ operations,
      ∀ node ∈ operation.nodes, TypeNode.KeysApart settings.naming node) :
    ∀ earlier : List String,
      (outlinedOperations settings.keepingNames root known earlier
          (operations.map (Api.Operation.respelled settings.naming))).result =
        (outlinedOperations settings root known earlier operations).result := by
  induction operations with
  | nil => exact fun _ => rfl
  | cons operation rest ih =>
      intro earlier
      obtain ⟨first, others⟩ := List.forall_mem_cons.mp apart
      simp only [List.map_cons, outlinedOperations, Logged.result_bind, result_noteOverwrite,
        Logged.result_ofResult, ok_bind, outlinedText_respelled known first,
        operationPlace_respelled, ih others]
      rfl

end

/-- Writing outlines down gives the same files for the interface with other names. -/
theorem result_outlinedFiles_respelled (root : Path) {spec : Api.Spec}
    (apart : spec.KeysApart settings.naming) :
    (outlinedFiles settings.keepingNames root (spec.respelled settings.naming)).result =
      (outlinedFiles settings root spec).result := by
  have names : (spec.respelled settings.naming).definitions.map (·.name) =
      spec.definitions.map (·.name) := by
    rw [Api.Spec.respelled, List.map_map]
    rfl
  have definitions := mapM_outlinedDefinition_respelled root (spec.definitions.map (·.name))
    apart.definitions
  have operations := result_outlinedOperations_respelled root (spec.definitions.map (·.name))
    apart.operations []
  simp only [outlinedFiles, names, Logged.result_bind, Logged.result_ofResult]
  simp only [Api.Spec.respelled, definitions, operations]

/-- A naming convention is a renaming: the files of a client, or the problem in their place, are
those that come of the interface with all names spelled beforehand where the client keeps names. -/
theorem result_files_respelled (bundled : Bundled settings) (root : Path) {spec : Api.Spec}
    (apart : spec.KeysApart settings.naming) :
    (files settings root spec).result =
      (files settings.keepingNames root (spec.respelled settings.naming)).result := by
  have keeping : Bundled settings.keepingNames := ⟨bundled.definition, bundled.operation⟩
  rw [bundled.files_eq_outlined, keeping.files_eq_outlined,
    result_outlinedFiles_respelled root apart]

/-- The standard settings with names in camel case. -/
def camelSettings : Settings := { Settings.standard with naming := .camel }

/-- An interface with the names of a nested property, of a path parameter and of a path. -/
def homeSpec (home street petId path : String) : Api.Spec where
  formatVersion := "2.0"
  info := ⟨"Pets", "1", none⟩
  definitions := [⟨"Pet", .object true [("id", .scalar true .string none),
    (home, .object false [(street, .scalar true .string none)] [])] []⟩]
  operations := [⟨"getPet", path, .get, none, .reference true "Pet",
    [(petId, .scalar true .string none)], [], none⟩]

/-- The names of that interface are spelled at every depth and in the path, and what comes out are
the files of the interface with the other names. -/
theorem homeSpec_respelled :
    Bundled camelSettings ∧
      (homeSpec "home_address" "street_name" "pet_id" "/pets/\x7bpet_id\x7d").KeysApart .camel ∧
      (files camelSettings ⟨"", ["client"]⟩
          (homeSpec "home_address" "street_name" "pet_id" "/pets/\x7bpet_id\x7d")).result =
        (files camelSettings.keepingNames ⟨"", ["client"]⟩
          (homeSpec "homeAddress" "streetName" "petId" "/pets/\x7bpetId\x7d")).result := by
  have bundled : Bundled camelSettings := ⟨rfl, rfl⟩
  have apart : (homeSpec "home_address" "street_name" "pet_id"
      "/pets/\x7bpet_id\x7d").KeysApart .camel := by
    constructor
    · refine List.forall_mem_singleton.mpr (TypeNode.keysApart_object_iff.mpr ⟨by decide, ?_⟩)
      simp [TypeNode.keysApart_object_iff]
    · refine List.forall_mem_singleton.mpr ?_
      simp [Api.Operation.nodes, Api.Operation.pathNode, Api.Operation.queryNode,
        TypeNode.keysApart_object_iff]
  have other : (homeSpec "home_address" "street_name" "pet_id"
      "/pets/\x7bpet_id\x7d").respelled .camel =
        homeSpec "homeAddress" "streetName" "petId" "/pets/\x7bpetId\x7d" := rfl
  have renamed := result_files_respelled bundled ⟨"", ["client"]⟩ apart
  exact ⟨bundled, apart, renamed.trans (congrArg (fun spec =>
    (files camelSettings.keepingNames ⟨"", ["client"]⟩ spec).result) other)⟩

end Client

end ClientGen
