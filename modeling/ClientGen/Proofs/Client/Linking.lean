import ClientGen.Proofs.Client.Rendering

/-!
# Imports of generated files

With the bundled templates, the types that a file refers to are the definitions that its nodes
mention. Each of them is imported or is the type of the file itself, nothing else is imported, and
what is imported is exported by the file of a definition.
-/

namespace ClientGen.Client

open TypeScript TypeScript.Fragment

variable {settings : Settings} {root : Path} {spec : Api.Spec} {known : List String}
  {list : List File}

/-! ## Names in outlines -/

variable {convention : Name.Convention} {outline : Outline}

theorem imports_definitionOutline {definition : Api.Definition}
    (outlined : definitionOutline convention definition = .ok outline) :
    outline.imports = ((TypeNode.referencesOfAll [definition.schema]).filter
      (· ≠ definition.name)).map fun name => ⟨identifier name, "./" ++ identifier name⟩ := by
  obtain ⟨parts, _, made⟩ := bind_eq_ok.mp outlined
  rw [← Except.ok.inj made, definitionImportsOf, definitionImports, List.map_map]
  rfl

theorem exported_definitionOutline {definition : Api.Definition}
    (outlined : definitionOutline convention definition = .ok outline) :
    outline.exported = [identifier definition.name] := by
  obtain ⟨parts, _, made⟩ := bind_eq_ok.mp outlined
  rw [← Except.ok.inj made]
  rfl

/-- A definition file mentions what its schema mentions. -/
theorem mentioned_definitionOutline {definition : Api.Definition}
    (outlined : definitionOutline convention definition = .ok outline) :
    outline.mentioned = ([definition.schema].flatMap TypeNode.mentions).map identifier := by
  obtain ⟨parts, written, made⟩ := bind_eq_ok.mp outlined
  have names := typeNames_fragments convention "any" 0 definition.schema written
  rw [← Except.ok.inj made, Outline.mentioned, List.flatMap_singleton, List.flatMap_singleton,
    names]

theorem imports_operationOutline {directory : String} {operation : Api.Operation}
    (outlined : operationOutline convention directory operation = .ok outline) :
    outline.imports = requestImport :: operationImportsOf directory operation := by
  obtain ⟨path, _, rest⟩ := bind_eq_ok.mp outlined
  obtain ⟨query, _, rest⟩ := bind_eq_ok.mp rest
  obtain ⟨body, _, rest⟩ := bind_eq_ok.mp rest
  obtain ⟨response, _, made⟩ := bind_eq_ok.mp rest
  rw [← Except.ok.inj made]

/-- What the names of the types of an operation end in. -/
def typeEnds (operation : Api.Operation) : List String :=
  ["PathParameter", "QueryParameter"] ++
    (if operation.body.isSome then ["BodyParameter"] else []) ++ ["Response"]

/-- The names of the types of an operation. -/
def operationTypes (operation : Api.Operation) : List String :=
  (typeEnds operation).map (typeStem operation ++ ·)

theorem exported_operationOutline {directory : String} {operation : Api.Operation}
    (outlined : operationOutline convention directory operation = .ok outline) :
    outline.exported = operationTypes operation := by
  obtain ⟨path, _, rest⟩ := bind_eq_ok.mp outlined
  obtain ⟨query, _, rest⟩ := bind_eq_ok.mp rest
  obtain ⟨body, written, rest⟩ := bind_eq_ok.mp rest
  obtain ⟨response, _, made⟩ := bind_eq_ok.mp rest
  rw [← Except.ok.inj made, operationTypes, typeEnds]
  cases found : operation.body with
  | none =>
      rw [found] at written
      rw [← Except.ok.inj written]
      rfl
  | some node =>
      rw [found, bodyParts] at written
      obtain ⟨parts, _, made⟩ := bind_eq_ok.mp written
      rw [← Except.ok.inj made]
      rfl

/-- An operation file mentions what the nodes of the operation mention. -/
theorem mentioned_operationOutline {directory : String} {operation : Api.Operation}
    (outlined : operationOutline convention directory operation = .ok outline) :
    outline.mentioned = (operation.nodes.flatMap TypeNode.mentions).map identifier := by
  obtain ⟨path, writtenPath, rest⟩ := bind_eq_ok.mp outlined
  obtain ⟨query, writtenQuery, rest⟩ := bind_eq_ok.mp rest
  obtain ⟨body, writtenBody, rest⟩ := bind_eq_ok.mp rest
  obtain ⟨response, writtenResponse, made⟩ := bind_eq_ok.mp rest
  have bodyNames : (body.toList.flatMap typeNames) =
      (operation.body.toList.flatMap TypeNode.mentions).map identifier := by
    cases found : operation.body with
    | none =>
        rw [found] at writtenBody
        rw [← Except.ok.inj writtenBody]
        rfl
    | some node =>
        rw [found, bodyParts] at writtenBody
        obtain ⟨parts, written, bodyMade⟩ := bind_eq_ok.mp writtenBody
        have names := typeNames_fragments convention "any" 0 node written
        rw [← Except.ok.inj bodyMade, Option.toList_some, Option.toList_some,
          List.flatMap_singleton, List.flatMap_singleton, names]
  have bodyExports : ((body.map fun parts =>
      Export.mk (typeStem operation ++ "BodyParameter") parts).toList.flatMap
        fun entry => typeNames entry.parts) = body.toList.flatMap typeNames := by
    cases body <;> rfl
  have pathNames := typeNames_fragments convention "any" 0 operation.pathNode writtenPath
  have queryNames := typeNames_fragments convention "any" 0 operation.queryNode writtenQuery
  have responseNames := typeNames_fragments convention "void" 0 operation.response writtenResponse
  rw [← Except.ok.inj made, Outline.mentioned]
  simp only [Api.Operation.nodes, List.flatMap_append, List.flatMap_cons, List.flatMap_nil,
    List.append_nil, List.map_append, bodyExports, bodyNames, pathNames, queryNames,
    responseNames]

/-- The function of an operation refers to the type of requests. -/
theorem requestOwner_mem_used {directory : String} {operation : Api.Operation}
    (outlined : operationOutline convention directory operation = .ok outline) :
    requestOwner ∈ outline.used := by
  obtain ⟨path, _, rest⟩ := bind_eq_ok.mp outlined
  obtain ⟨query, _, rest⟩ := bind_eq_ok.mp rest
  obtain ⟨body, _, rest⟩ := bind_eq_ok.mp rest
  obtain ⟨response, _, made⟩ := bind_eq_ok.mp rest
  rw [← Except.ok.inj made, Outline.used, functionParts, headerParts]
  refine List.mem_append_right _ (List.mem_filterMap.mpr ⟨.typeName requestOwner, ?_, rfl⟩)
  simp

/-! ## Links -/

/-- An import whose type the file of a definition exports, in the module that the import names. -/
def Provided (settings : Settings) (root : Path) (spec : Api.Spec) (list : List File)
    (place : String) (entry : Import) : Prop :=
  ∃ definition ∈ spec.definitions, ∃ outline,
    definitionOutline settings.naming definition = .ok outline ∧
      entry.name ∈ outline.exported ∧ entry.source = place ++ identifier definition.name ∧
        ⟨definitionPlace settings root definition, outline.text⟩ ∈ list

/-- The types that a file refers to are the references of its nodes. Each of them is imported or
the type of the file itself. What is imported is used, and provided unless it is given. -/
structure Linked (provided : Import → Prop) (nodes : List TypeNode) (own : List String)
    (given : List Import) (outline : Outline) : Prop where
  mentioned : ∀ name, name ∈ outline.mentioned ↔
    ∃ node ∈ nodes, ∃ reference ∈ node.references, identifier reference = name
  resolved : ∀ name ∈ outline.mentioned,
    name ∈ outline.imported ∨ name ∈ own.map identifier ∧ name ∈ outline.exported
  needed : ∀ entry ∈ outline.imports, entry.name ∈ outline.mentioned ∨
    entry ∈ given ∧ entry.name ∈ outline.used
  provided : ∀ entry ∈ outline.imports, entry ∈ given ∨ provided entry

/-- A known name is exported by the file of its definition. -/
theorem provided_of_known {definitions : List File} {name place : String}
    (made : List.Forall₂ (DefinitionFile settings root spec) spec.definitions definitions)
    (inside : definitions ⊆ list) (found : name ∈ spec.definitions.map (·.name)) :
    Provided settings root spec list place ⟨identifier name, place ++ identifier name⟩ := by
  obtain ⟨definition, member, rfl⟩ := List.mem_map.mp found
  obtain ⟨file, present, outline, outlined, rfl, _⟩ := exists_of_forall₂ made member
  refine ⟨definition, member, outline, outlined, ?_, rfl, inside present⟩
  rw [exported_definitionOutline outlined]
  exact List.mem_singleton.mpr rfl

/-- An outline is linked if it imports its references but its own. -/
theorem linked_of_imports {provided : Import → Prop} {nodes : List TypeNode} {own kept : List String}
    {given : List Import} {place : String}
    (mentioned : outline.mentioned = (nodes.flatMap TypeNode.mentions).map identifier)
    (imports : outline.imports =
      given ++ kept.map fun name => ⟨identifier name, place ++ identifier name⟩)
    (keeps : ∀ name, name ∈ kept ↔ name ∈ TypeNode.referencesOfAll nodes ∧ name ∉ own)
    (exports : ∀ name ∈ own, identifier name ∈ outline.exported)
    (used : ∀ entry ∈ given, entry.name ∈ outline.used)
    (all : ∀ name ∈ TypeNode.referencesOfAll nodes,
      provided ⟨identifier name, place ++ identifier name⟩) :
    Linked provided nodes own given outline := by
  have mentions : ∀ name, name ∈ outline.mentioned ↔
      ∃ reference ∈ TypeNode.referencesOfAll nodes, identifier reference = name := by
    intro name
    rw [mentioned]
    simp only [List.mem_map, List.mem_flatMap, TypeNode.mem_referencesOfAll]
  refine ⟨?_, ?_, ?_, ?_⟩
  · intro name
    rw [mentioned]
    simp only [List.mem_map, List.mem_flatMap, TypeNode.mem_references]
    constructor
    · rintro ⟨reference, ⟨node, member, found⟩, equal⟩
      exact ⟨node, member, reference, found, equal⟩
    · rintro ⟨node, member, reference, found, equal⟩
      exact ⟨reference, ⟨node, member, found⟩, equal⟩
  · intro name member
    obtain ⟨reference, found, rfl⟩ := (mentions name).mp member
    by_cases itself : reference ∈ own
    · exact Or.inr ⟨List.mem_map_of_mem itself, exports reference itself⟩
    · left
      rw [Outline.imported, imports, List.map_append, List.map_map]
      exact List.mem_append_right _ (List.mem_map_of_mem ((keeps reference).mpr ⟨found, itself⟩))
  · intro entry member
    rw [imports] at member
    rcases List.mem_append.mp member with supplied | kept
    · exact Or.inr ⟨supplied, used entry supplied⟩
    · obtain ⟨reference, found, rfl⟩ := List.mem_map.mp kept
      exact Or.inl ((mentions _).mpr ⟨reference, ((keeps reference).mp found).1, rfl⟩)
  · intro entry member
    rw [imports] at member
    rcases List.mem_append.mp member with supplied | kept
    · exact Or.inl supplied
    · obtain ⟨reference, found, rfl⟩ := List.mem_map.mp kept
      exact Or.inr (all reference ((keeps reference).mp found).1)

theorem linked_definition {provided : Import → Prop} {definition : Api.Definition}
    (outlined : definitionOutline convention definition = .ok outline)
    (all : ∀ name ∈ TypeNode.referencesOfAll [definition.schema],
      provided ⟨identifier name, "./" ++ identifier name⟩) :
    Linked provided [definition.schema] [definition.name] [] outline := by
  refine linked_of_imports (mentioned_definitionOutline outlined)
    (imports_definitionOutline outlined) ?_ ?_ nofun all
  · intro name
    simp only [List.mem_filter, decide_eq_true_eq, List.mem_singleton, ne_eq]
  · intro name member
    rw [exported_definitionOutline outlined, List.mem_singleton.mp member]
    exact List.mem_singleton.mpr rfl

theorem linked_operation {provided : Import → Prop} {directory : String}
    {operation : Api.Operation}
    (outlined : operationOutline convention directory operation = .ok outline)
    (all : ∀ name ∈ TypeNode.referencesOfAll operation.nodes,
      provided ⟨identifier name, "../" ++ directory ++ "/" ++ identifier name⟩) :
    Linked provided operation.nodes [] [requestImport] outline := by
  refine linked_of_imports (mentioned_operationOutline outlined)
    (imports_operationOutline outlined) ?_ nofun ?_ all
  · intro name
    simp only [List.not_mem_nil, not_false_eq_true, and_true]
  · intro entry member
    rw [List.mem_singleton.mp member]
    exact requestOwner_mem_used outlined

/-- A file that is linked to the other files from the definition that it is made for. -/
def LinkedDefinition (settings : Settings) (root : Path) (spec : Api.Spec) (list : List File)
    (definition : Api.Definition) (file : File) : Prop :=
  ∃ outline, definitionOutline settings.naming definition = .ok outline ∧
    file = ⟨definitionPlace settings root definition, outline.text⟩ ∧
    Linked (Provided settings root spec list "./") [definition.schema] [definition.name] [] outline

/-- A file that is linked to the files of definitions from the operation that it is made for. -/
def LinkedOperation (settings : Settings) (root : Path) (spec : Api.Spec) (list : List File)
    (operation : Api.Operation) (file : File) : Prop :=
  ∃ outline, operationOutline settings.naming settings.definitionDir operation = .ok outline ∧
    file = ⟨operationPlace settings root operation, outline.text⟩ ∧
    Linked (Provided settings root spec list ("../" ++ settings.definitionDir ++ "/"))
      operation.nodes [] [requestImport] outline

/-- Every file that the bundled templates give is linked: the types that it refers to are the
references of its nodes, and the imports of definitions are those that it needs. -/
theorem files_linked (bundled : Bundled settings)
    (rendered : (files settings root spec).result = .ok list) :
    ∃ definitions operations,
      list = ⟨root.child requestFileName, requestSource⟩ :: definitions ++ operations ∧
        List.Forall₂ (LinkedDefinition settings root spec list) spec.definitions definitions ∧
        List.Forall₂ (LinkedOperation settings root spec list) spec.operations operations := by
  obtain ⟨definitions, operations, definitionFiles, operationFiles, list_eq⟩ :=
    (files_bundled_eq_ok bundled).mp rendered
  have inside : definitions ⊆ list := by
    intro file member
    rw [list_eq]
    exact List.mem_append_left _ (List.mem_cons_of_mem _ member)
  refine ⟨definitions, operations, list_eq, ?_, ?_⟩
  · refine definitionFiles.imp fun definition file made => ?_
    obtain ⟨outline, outlined, file_eq, known⟩ := made
    refine ⟨outline, outlined, file_eq, linked_definition outlined fun name member => ?_⟩
    exact provided_of_known definitionFiles inside (known name member)
  · refine operationFiles.imp fun operation file made => ?_
    obtain ⟨outline, outlined, file_eq, known⟩ := made
    refine ⟨outline, outlined, file_eq, linked_operation outlined fun name member => ?_⟩
    exact provided_of_known definitionFiles inside (known name member)

/-- An interface with a definition that refers to itself, to a base and to another one. -/
def petSpec : Api.Spec where
  formatVersion := "2.0"
  info := ⟨"Pets", "1", none⟩
  definitions :=
    [⟨"Pet", .object true [("children", .array true (.reference true "Pet")),
      ("home", .reference false "Pet.Home")] ["Animal"]⟩,
    ⟨"Animal", .object true [] []⟩,
    ⟨"Pet.Home", .scalar true .string none⟩]
  operations := [⟨"findPet", "/pet", .get, none, .reference true "Pet", [],
    [("near", .reference false "Pet.Home")], some (.array true (.reference true "Pet.Home"))⟩]

theorem petSpec_linked : ∃ list, Bundled .standard ∧
    (files .standard ⟨"", []⟩ petSpec).result = .ok list ∧
    ∃ definitions operations,
      list = ⟨Path.child ⟨"", []⟩ requestFileName, requestSource⟩ :: definitions ++ operations ∧
        List.Forall₂ (LinkedDefinition .standard ⟨"", []⟩ petSpec list) petSpec.definitions
          definitions ∧
        List.Forall₂ (LinkedOperation .standard ⟨"", []⟩ petSpec list) petSpec.operations
          operations := by
  have bundled : Bundled .standard := ⟨rfl, rfl⟩
  have definitions : List.Forall₂ (DefinitionFile .standard ⟨"", []⟩ petSpec)
      petSpec.definitions _ := .cons ⟨_, rfl, rfl, by decide⟩ (.cons ⟨_, rfl, rfl, by decide⟩
    (.cons ⟨_, rfl, rfl, by decide⟩ .nil))
  have operations : List.Forall₂ (OperationFile .standard ⟨"", []⟩ petSpec)
      petSpec.operations _ := .cons ⟨_, rfl, rfl, by decide⟩ .nil
  have rendered := (files_bundled_eq_ok bundled).mpr ⟨_, _, definitions, operations, rfl⟩
  exact ⟨_, bundled, rendered, files_linked bundled rendered⟩

end ClientGen.Client
