import ClientGen.Proofs.Client.Linking
import Mathlib.Data.List.Nodup

/-!
# Type names that generated files introduce

A file introduces the types that it imports and those that it exports. References are told apart by
their names in the document and written down as identifiers, so that a file introduces a type once
exactly if different names that meet in it have different identifiers.
-/

namespace ClientGen.Client

open TypeScript

/-- Names that different identifiers stand for. -/
def ToldApart (names : List String) : Prop :=
  ∀ first ∈ names, ∀ second ∈ names, identifier first = identifier second → first = second

instance (names : List String) : Decidable (ToldApart names) :=
  inferInstanceAs (Decidable (∀ first ∈ names, ∀ second ∈ names,
    identifier first = identifier second → first = second))

/-- Distinct names have distinct identifiers exactly if these tell them apart. -/
theorem nodup_identifiers {names others : List String} (distinct : names.Nodup)
    (same : ∀ name, name ∈ names ↔ name ∈ others) :
    (names.map identifier).Nodup ↔ ToldApart others := by
  rw [List.nodup_map_iff_inj_on distinct, ToldApart]
  simp only [same]

/-! ## Definition files -/

variable {settings : Settings} {root : Path} {spec : Api.Spec} {list : List File}
  {convention : Name.Convention} {outline : Outline}

/-- The file of a definition introduces each type once exactly if its name and its references are
told apart. -/
theorem nodup_introduced_definition {definition : Api.Definition}
    (outlined : definitionOutline convention definition = .ok outline) :
    outline.introduced.Nodup ↔ ToldApart (definition.name :: definition.schema.references) := by
  let kept := (TypeNode.referencesOfAll [definition.schema]).filter (· ≠ definition.name)
  have introduced : outline.introduced = (kept ++ [definition.name]).map identifier := by
    rw [Outline.introduced, Outline.imported, imports_definitionOutline outlined, List.map_map,
      exported_definitionOutline outlined, List.map_append]
    rfl
  have distinct : (kept ++ [definition.name]).Nodup := by
    have others : definition.name ∉ kept := fun member => by
      simpa using (List.mem_filter.mp member).2
    refine List.nodup_append.mpr ⟨(TypeNode.nodup_referencesOfAll _).filter _, by simp, ?_⟩
    rintro name member other single rfl
    exact others (List.mem_singleton.mp single ▸ member)
  rw [introduced]
  refine nodup_identifiers distinct fun name => ?_
  simp only [kept, List.mem_append, List.mem_filter, List.mem_cons, List.not_mem_nil, or_false,
    TypeNode.mem_referencesOfAll, TypeNode.mem_references, exists_eq_left, decide_eq_true_eq]
  by_cases itself : name = definition.name
  · simp [itself]
  · simp [itself]

/-! ## Operation files -/

/-- No type of an operation has the name of another one or of the type of requests. -/
theorem nodup_operationTypes (operation : Api.Operation) :
    (requestOwner :: operationTypes operation).Nodup := by
  have ends : typeEnds operation ⊆
      ["PathParameter", "QueryParameter", "BodyParameter", "Response"] := by
    rw [typeEnds]
    split <;> decide
  have distinct : (typeEnds operation).Nodup := by
    rw [typeEnds]
    split <;> decide
  refine List.nodup_cons.mpr ⟨fun member => ?_, distinct.map fun first second equal => ?_⟩
  · obtain ⟨ending, found, equal⟩ := List.mem_map.mp member
    have suffix : ending.toList <:+ requestOwner.toList :=
      ⟨(typeStem operation).toList, by rw [← String.toList_append, equal]⟩
    have none : ∀ ending ∈ ["PathParameter", "QueryParameter", "BodyParameter", "Response"],
        ¬ ending.toList <:+ requestOwner.toList := by decide
    exact none ending (ends found) suffix
  · have lists := congrArg String.toList equal
    simp only [String.toList_append, List.append_cancel_left_eq] at lists
    exact String.toList_inj.mp lists

/-- The file of an operation introduces each type once exactly if its references are told apart and
have identifiers that none of its own types has. -/
theorem nodup_introduced_operation {directory : String} {operation : Api.Operation}
    (outlined : operationOutline convention directory operation = .ok outline) :
    outline.introduced.Nodup ↔
      ToldApart (operation.nodes.flatMap TypeNode.references) ∧
        ∀ name ∈ operation.nodes.flatMap TypeNode.references,
          identifier name ∉ requestOwner :: operationTypes operation := by
  have introduced : outline.introduced = requestOwner ::
      ((TypeNode.referencesOfAll operation.nodes).map identifier ++ operationTypes operation) := by
    rw [Outline.introduced, Outline.imported, imports_operationOutline outlined,
      exported_operationOutline outlined, operationImportsOf, List.map_cons, List.map_map]
    rfl
  have same : ∀ name, name ∈ TypeNode.referencesOfAll operation.nodes ↔
      name ∈ operation.nodes.flatMap TypeNode.references := fun name => by
    simp only [TypeNode.mem_referencesOfAll, List.mem_flatMap, TypeNode.mem_references]
  rw [introduced, ← List.nodup_middle, List.nodup_append, 
    nodup_identifiers (TypeNode.nodup_referencesOfAll _) same]
  simp only [nodup_operationTypes, true_and, List.mem_map, same]
  constructor
  · rintro ⟨apart, disjoint⟩
    refine ⟨apart, fun name member own => ?_⟩
    exact disjoint _ ⟨name, member, rfl⟩ _ own rfl
  · rintro ⟨apart, disjoint⟩
    refine ⟨apart, ?_⟩
    rintro _ ⟨name, member, rfl⟩ _ own rfl
    exact disjoint name member own

/-! ## All files -/

/-- The file of a definition, with the exact condition under which it introduces each type once. -/
def DefinitionScope (settings : Settings) (root : Path) (definition : Api.Definition)
    (file : File) : Prop :=
  ∃ outline, definitionOutline settings.naming definition = .ok outline ∧
    file = ⟨definitionPlace settings root definition, outline.text⟩ ∧
    (outline.introduced.Nodup ↔ ToldApart (definition.name :: definition.schema.references))

/-- The file of an operation, with the exact condition under which it introduces each type once. -/
def OperationScope (settings : Settings) (root : Path) (operation : Api.Operation)
    (file : File) : Prop :=
  ∃ outline, operationOutline settings.naming settings.definitionDir operation = .ok outline ∧
    file = ⟨operationPlace settings root operation, outline.text⟩ ∧
    (outline.introduced.Nodup ↔
      ToldApart (operation.nodes.flatMap TypeNode.references) ∧
        ∀ name ∈ operation.nodes.flatMap TypeNode.references,
          identifier name ∉ requestOwner :: operationTypes operation)

/-- A file that the bundled templates give introduces each type once exactly if the names that meet
in it are told apart by their identifiers. -/
theorem files_introduce_once_iff (bundled : Bundled settings)
    (rendered : (files settings root spec).result = .ok list) :
    ∃ definitions operations,
      list = ⟨root.child requestFileName, requestSource⟩ :: definitions ++ operations ∧
        List.Forall₂ (DefinitionScope settings root) spec.definitions definitions ∧
        List.Forall₂ (OperationScope settings root) spec.operations operations := by
  obtain ⟨definitions, operations, definitionFiles, operationFiles, list_eq⟩ :=
    (files_bundled_eq_ok bundled).mp rendered
  refine ⟨definitions, operations, list_eq, ?_, ?_⟩
  · refine definitionFiles.imp fun definition file made => ?_
    obtain ⟨outline, outlined, file_eq, _⟩ := made
    exact ⟨outline, outlined, file_eq, nodup_introduced_definition outlined⟩
  · refine operationFiles.imp fun operation file made => ?_
    obtain ⟨outline, outlined, file_eq, _⟩ := made
    exact ⟨outline, outlined, file_eq, nodup_introduced_operation outlined⟩

/-- An interface with two definitions that have one identifier. -/
def infoSpec : Api.Spec where
  formatVersion := "2.0"
  info := ⟨"t", "1", none⟩
  definitions :=
    [⟨"Pet.Info", .object false [("next", .reference false "Pet_Info")] []⟩,
    ⟨"Pet_Info", .scalar false .string none⟩]
  operations := [⟨"getInfo", "/info", .get, none,
    .object false [("a", .reference false "Pet.Info"), ("b", .reference false "Pet_Info")] [],
    [], [], none⟩]

theorem infoSpec_introduce_once_iff : ∃ list, Bundled .standard ∧
    (files .standard ⟨"", []⟩ infoSpec).result = .ok list ∧
    ∃ definitions operations,
      list = ⟨Path.child ⟨"", []⟩ requestFileName, requestSource⟩ :: definitions ++ operations ∧
        List.Forall₂ (DefinitionScope .standard ⟨"", []⟩) infoSpec.definitions definitions ∧
        List.Forall₂ (OperationScope .standard ⟨"", []⟩) infoSpec.operations operations := by
  have bundled : Bundled .standard := ⟨rfl, rfl⟩
  have definitions : List.Forall₂ (DefinitionFile .standard ⟨"", []⟩ infoSpec)
      infoSpec.definitions _ :=
    .cons ⟨_, rfl, rfl, by decide⟩ (.cons ⟨_, rfl, rfl, by decide⟩ .nil)
  have operations : List.Forall₂ (OperationFile .standard ⟨"", []⟩ infoSpec)
      infoSpec.operations _ := .cons ⟨_, rfl, rfl, by decide⟩ .nil
  have rendered := (files_bundled_eq_ok bundled).mpr ⟨_, _, definitions, operations, rfl⟩
  exact ⟨_, bundled, rendered, files_introduce_once_iff bundled rendered⟩

/-- The file of its first definition imports the type that it exports, and the file of its operation
imports one type twice. -/
theorem infoSpec_introduces_twice :
    (∀ definition ∈ infoSpec.definitions.head?, ∃ outline,
      definitionOutline .preserve definition = .ok outline ∧
        outline.introduced = ["Pet_Info", "Pet_Info"]) ∧
    (∀ operation ∈ infoSpec.operations, ∃ outline,
      operationOutline .preserve "models" operation = .ok outline ∧
        outline.imported = ["APIRequest", "Pet_Info", "Pet_Info"]) := by
  constructor
  · intro definition first
    cases first
    exact ⟨_, rfl, by decide⟩
  · intro operation member
    rw [List.mem_singleton.mp member]
    exact ⟨_, rfl, by decide⟩

end ClientGen.Client
