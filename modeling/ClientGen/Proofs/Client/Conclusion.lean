import ClientGen.Proofs.Api.Extraction
import ClientGen.Proofs.Client.Rendering
import ClientGen.Proofs.TypeScript.Expressible

/-!
# How renderings end

With the bundled templates, an interface is rendered exactly if all of its references have a
definition and all of its literals have a form in JSON. References are refused in words of their
own; a literal without a form is a fault.
-/

namespace ClientGen.Api

/-- An interface with literals that JSON can express. -/
structure Spec.Expressible (spec : Spec) : Prop where
  definitions : ∀ definition ∈ spec.definitions, definition.schema.Expressible
  operations : ∀ operation ∈ spec.operations, ∀ node ∈ operation.nodes, node.Expressible

end ClientGen.Api

namespace ClientGen.Client

open TypeScript

variable {settings : Settings} {root : Path} {spec : Api.Spec} {convention : Name.Convention}

/-! ## Outlines -/

theorem succeeds_definitionOutline {definition : Api.Definition} :
    Succeeds (definitionOutline convention definition) ↔ definition.schema.Expressible := by
  rw [definitionOutline, succeeds_bind_ok, succeeds_fragments_iff]

theorem succeeds_bodyParts {body : Option TypeNode} :
    Succeeds (bodyParts convention body) ↔ ∀ node ∈ body.toList, node.Expressible := by
  cases body with
  | none => exact iff_of_true (succeeds_ok _) nofun
  | some node =>
      rw [bodyParts, succeeds_bind_ok, succeeds_fragments_iff, Option.toList_some]
      exact List.forall_mem_singleton.symm

theorem succeeds_operationOutline {directory : String} {operation : Api.Operation} :
    Succeeds (operationOutline convention directory operation) ↔
      ∀ node ∈ operation.nodes, node.Expressible := by
  rw [operationOutline]
  refine (succeeds_bind_iff fun _ _ => succeeds_bind_iff fun _ _ => succeeds_bind_iff fun _ _ =>
    succeeds_bind_ok).trans ?_
  simp only [succeeds_fragments_iff, succeeds_bodyParts, Api.Operation.nodes,
    List.forall_mem_append, List.forall_mem_cons, List.not_mem_nil, false_imp_iff, forall_const, and_true, and_assoc]

/-! ## Files -/

/-- The references of nodes are known if all names that they mention are. -/
theorem forall_mem_referencesOfAll {nodes : List TypeNode} {holds : String → Prop} :
    (∀ name ∈ TypeNode.referencesOfAll nodes, holds name) ↔
      ∀ node ∈ nodes, ∀ name ∈ node.mentions, holds name := by
  constructor
  · intro all node listed name mentioned
    exact all name (TypeNode.mem_referencesOfAll.mpr ⟨node, listed, mentioned⟩)
  · intro all name member
    obtain ⟨node, listed, mentioned⟩ := TypeNode.mem_referencesOfAll.mp member
    exact all node listed name mentioned

private theorem exists_written_iff {outlined : Except Fault Outline} {place : Path}
    {condition : Prop} :
    (∃ file : File, ∃ outline, outlined = .ok outline ∧ file = ⟨place, outline.text⟩ ∧ condition) ↔
      Succeeds outlined ∧ condition := by
  constructor
  · rintro ⟨file, outline, made, _, holds⟩
    exact ⟨⟨outline, made⟩, holds⟩
  · rintro ⟨⟨outline, made⟩, holds⟩
    exact ⟨⟨place, outline.text⟩, outline, made, rfl, holds⟩

theorem exists_definitionFile_iff {definition : Api.Definition} :
    (∃ file, DefinitionFile settings root spec definition file) ↔
      definition.schema.Expressible ∧
        ∀ name ∈ definition.schema.mentions, name ∈ spec.definitions.map (·.name) := by
  refine exists_written_iff.trans ?_
  rw [succeeds_definitionOutline, forall_mem_referencesOfAll, List.forall_mem_singleton]

theorem exists_operationFile_iff {operation : Api.Operation} :
    (∃ file, OperationFile settings root spec operation file) ↔
      (∀ node ∈ operation.nodes, node.Expressible) ∧
        ∀ node ∈ operation.nodes, ∀ name ∈ node.mentions, name ∈ spec.definitions.map (·.name) := by
  refine exists_written_iff.trans ?_
  rw [succeeds_operationOutline, forall_mem_referencesOfAll]

/-- An interface is rendered exactly if its references are resolved and its literals expressible. -/
theorem succeeds_files_iff (bundled : Bundled settings) :
    Succeeds (files settings root spec).result ↔ spec.Resolved ∧ spec.Expressible := by
  have parts : Succeeds (files settings root spec).result ↔
      (∃ definitions, List.Forall₂ (DefinitionFile settings root spec) spec.definitions
        definitions) ∧
      ∃ operations, List.Forall₂ (OperationFile settings root spec) spec.operations operations := by
    constructor
    · rintro ⟨list, rendered⟩
      obtain ⟨definitions, operations, defined, operated, _⟩ :=
        (files_bundled_eq_ok bundled).mp rendered
      exact ⟨⟨definitions, defined⟩, ⟨operations, operated⟩⟩
    · rintro ⟨⟨definitions, defined⟩, ⟨operations, operated⟩⟩
      exact ⟨_, (files_bundled_eq_ok bundled).mpr ⟨definitions, operations, defined, operated, rfl⟩⟩
  rw [parts, exists_forall₂_iff, exists_forall₂_iff]
  simp only [exists_definitionFile_iff, exists_operationFile_iff, forall₂_and]
  constructor
  · rintro ⟨⟨schemas, defined⟩, ⟨nodes, operated⟩⟩
    exact ⟨⟨defined, operated⟩, ⟨schemas, nodes⟩⟩
  · rintro ⟨⟨defined, operated⟩, ⟨schemas, nodes⟩⟩
    exact ⟨⟨schemas, defined⟩, ⟨nodes, operated⟩⟩

/-! ## Problems -/

/-- Why an interface is not rendered: a reference without a definition is refused, a literal without
a form in JSON is a fault. -/
def Explains (spec : Api.Spec) (problem : Problem) : Prop :=
  (∃ failure : Failure, problem = .failure failure ∧ failure.kind = .unresolvedReference ∧
      ¬ spec.Resolved) ∨
    IsFault problem ∧ ¬ spec.Expressible

theorem explains_checkedReferences {owner : String} {nodes : List TypeNode}
    (needed : spec.Resolved → ∀ node ∈ nodes, ∀ name ∈ node.mentions,
      name ∈ spec.definitions.map (·.name)) :
    EndsWithin (Explains spec)
      (checkedReferences owner (spec.definitions.map (·.name)) nodes) := by
  intro problem failed
  have unresolved : ¬ spec.Resolved := by
    intro resolved
    have checked : checkedReferences owner (spec.definitions.map (·.name)) nodes = .ok _ :=
      checkedReferences_eq_ok.mpr ⟨rfl, forall_mem_referencesOfAll.mpr (needed resolved)⟩
    rw [checked] at failed
    cases failed
  rw [checkedReferences] at failed
  split at failed
  · cases failed
    exact Or.inl ⟨_, rfl, rfl, unresolved⟩
  · cases failed

theorem explains_outline {outlined : Except Fault Outline}
    (needed : spec.Expressible → Succeeds outlined) :
    EndsWithin (Explains spec) ((outlined.map Outline.text).mapError Problem.fault) := by
  cases outlined with
  | ok outline => exact endsWithin_ok _ outline.text
  | error fault =>
      rintro _ ⟨⟩
      exact Or.inr ⟨⟨fault, rfl⟩, fun expressible => not_succeeds_error _ (needed expressible)⟩

theorem explains_files (bundled : Bundled settings) :
    EndsWithin (Explains spec) (files settings root spec).result := by
  have loads := bundled.loads_iff.mpr ⟨rfl, rfl⟩
  refine endsWithin_files ?_ ?_ ?_ (fun template loaded definition member => ?_)
    fun template loaded operation member => ?_
  · rw [loads.definition]
    exact endsWithin_ok _ _
  · rw [loads.operation]
    exact endsWithin_ok _ _
  · rw [requestFile_eq]
    exact endsWithin_ok _ _
  · rw [← Except.ok.inj (loads.definition.symm.trans loaded), definitionText_eq]
    refine (explains_checkedReferences fun resolved => ?_).bind fun _ _ =>
      explains_outline fun expressible => ?_
    · exact List.forall_mem_singleton.mpr (resolved.definitions definition member)
    · exact succeeds_definitionOutline.mpr (expressible.definitions definition member)
  · rw [← Except.ok.inj (loads.operation.symm.trans loaded), operationText_eq]
    refine (explains_checkedReferences fun resolved => ?_).bind fun _ _ =>
      explains_outline fun expressible => ?_
    · exact resolved.operations operation member
    · exact succeeds_operationOutline.mpr (expressible.operations operation member)

/-- How the rendering of an interface ends. -/
structure Concluded (spec : Api.Spec) (result : Except Problem (List File)) : Prop where
  rendered : Succeeds result ↔ spec.Resolved ∧ spec.Expressible
  refused : ∀ failure : Failure, result = .error (.failure failure) →
    failure.kind = .unresolvedReference ∧ ¬ spec.Resolved
  faulted : ∀ fault : Fault, result = .error (.fault fault) → ¬ spec.Expressible

/-- With the bundled templates, every rendering gives its files, refuses an unresolved reference, or
comes to a literal that JSON cannot express. -/
theorem concluded_files (bundled : Bundled settings) (root : Path) (spec : Api.Spec) :
    Concluded spec (files settings root spec).result := by
  refine ⟨succeeds_files_iff bundled, fun failure failed => ?_, fun fault failed => ?_⟩
  · rcases explains_files bundled _ failed with ⟨_, ⟨⟩, unresolved⟩ | ⟨⟨_, ⟨⟩⟩, _⟩
    exact unresolved
  · rcases explains_files bundled _ failed with ⟨_, ⟨⟩, _⟩ | ⟨_, inexpressible⟩
    exact inexpressible

/-- A document with a text that is restricted to a date. -/
def datedDocument : Value :=
  .map [(.text "swagger", .text "2.0"),
    (.text "definitions", .map [(.text "Day", .map [(.text "type", .text "string"),
      (.text "enum", .list [.day ⟨2020, 1, 1⟩])])]),
    (.text "paths", .map [])]

/-- The interface that it describes. -/
def datedSpec : Api.Spec where
  formatVersion := "2.0"
  info := ⟨"Untitled API", "0.0.0", none⟩
  definitions := [⟨"Day", .scalar false .string (some [.day ⟨2020, 1, 1⟩])⟩]
  operations := []

theorem datedSpec_concluded : Bundled .standard ∧
    Concluded datedSpec (files .standard ⟨"", []⟩ datedSpec).result :=
  ⟨⟨rfl, rfl⟩, concluded_files ⟨rfl, rfl⟩ ⟨"", []⟩ datedSpec⟩

/-- The document is accepted, and its references are resolved, and yet it is not rendered but ends
with a fault. -/
theorem datedDocument_faults : Bundled .standard ∧
    (Api.extract datedDocument).result = .ok datedSpec ∧ datedSpec.Resolved ∧
    ∃ fault, (files .standard ⟨"", []⟩ datedSpec).result = .error (.fault fault) := by
  have bundled : Bundled .standard := ⟨rfl, rfl⟩
  have resolved : datedSpec.Resolved := ⟨by decide, nofun⟩
  have inexpressible : ¬ datedSpec.Expressible := by
    intro expressible
    have literals := (throughout_iff.mp (expressible.definitions _ List.mem_cons_self)).1
    exact (throughout_iff.mp (literals _ List.mem_cons_self)).1
  refine ⟨bundled, rfl, resolved, ?_⟩
  cases ended : (files .standard ⟨"", []⟩ datedSpec).result with
  | ok list => exact absurd ((succeeds_files_iff bundled).mp ⟨list, ended⟩).2 inexpressible
  | error problem =>
      rcases explains_files bundled _ ended with ⟨_, _, _, unresolved⟩ | ⟨⟨fault, rfl⟩, _⟩
      · exact absurd resolved unresolved
      · exact ⟨fault, rfl⟩

end ClientGen.Client
