import ClientGen.Api.Extraction
import ClientGen.Proofs.Client.Rendering

/-!
# Directories of generated files

An interface decides how many files there are and what they are called, but not where they go: each
of them is in the directory that the settings give to its kind, and its name is an identifier with
an ending, whatever text the identifier is made of.
-/

namespace ClientGen.Client

open TypeScript

/-! ## Names -/

/-- The path of a file in a directory whose name is an identifier with the ending `.ts`. -/
def IsSourceIn (directory path : Path) : Prop :=
  ∃ name : String, isIdentifier name.toList = true ∧ name ∉ reservedWords ∧
    path = ⟨directory.root, directory.parts ++ [name ++ ".ts"]⟩

theorem isSourceIn_child (directory : Path) (name : String) :
    IsSourceIn directory (directory.child (fileName name)) := by
  refine ⟨identifier name, ?_, identifier_notMem_reservedWords name, child_fileName directory name⟩
  rw [toList_identifier]
  exact isIdentifier_identifierChars name.toList

theorem isSourceIn_definitionPlace (settings : Settings) (root : Path)
    (definition : Api.Definition) :
    IsSourceIn (root.child settings.definitionDir) (definitionPlace settings root definition) :=
  isSourceIn_child _ definition.name

theorem isSourceIn_operationPlace (settings : Settings) (root : Path)
    (operation : Api.Operation) :
    IsSourceIn (root.child settings.operationDir) (operationPlace settings root operation) :=
  isSourceIn_child _ operation.name

/-- The directory can be read off the path. -/
theorem IsSourceIn.parent_eq {directory path : Path} (source : IsSourceIn directory path) :
    path.parent = directory := by
  obtain ⟨name, _, _, rfl⟩ := source
  rw [Path.parent, List.dropLast_concat]

/-! ## Directories -/

/-- The directories of generated files in their order. Of an interface only the numbers of its
definitions and its operations count. -/
def directories (settings : Settings) (root : Path) (definitions operations : Nat) : List Path :=
  root :: List.replicate definitions (root.child settings.definitionDir) ++
    List.replicate operations (root.child settings.operationDir)

/-- Files that are all in given directories, with the file of requests in front. -/
structure Confined (directories : List Path) (root : Path) (list : List File) : Prop where
  request : list.head?.map (·.path) = some (root.child requestFileName)
  sources : List.Forall₂ IsSourceIn directories (list.map (·.path))
  parents : list.map (·.path.parent) = directories

/-- Items of one kind go to one directory. -/
theorem forall₂_isSourceIn {α : Type} {directory : Path} {place : α → Path}
    (each : ∀ item, IsSourceIn directory (place item)) (items : List α) :
    List.Forall₂ IsSourceIn (List.replicate items.length directory) (items.map place) := by
  induction items with
  | nil => exact .nil
  | cons item rest ih => exact .cons (each item) ih

theorem parents_eq_of_sources {directories paths : List Path}
    (sources : List.Forall₂ IsSourceIn directories paths) : paths.map Path.parent = directories :=
  (map_eq_of_forall₂ sources fun _ _ source => source.parent_eq).trans (List.map_id directories)

/-- Whatever definitions and operations are called, their files are in the directories of the
settings. -/
theorem confined_files {settings : Settings} {root : Path} {spec : Api.Spec} {list : List File}
    (rendered : (files settings root spec).result = .ok list) :
    Confined (directories settings root spec.definitions.length spec.operations.length) root
      list := by
  have paths := paths_files rendered
  have request : IsSourceIn root (root.child requestFileName) := by
    rw [requestFileName_eq]
    exact isSourceIn_child root requestOwner
  have definitions := forall₂_isSourceIn (isSourceIn_definitionPlace settings root) spec.definitions
  have operations := forall₂_isSourceIn (isSourceIn_operationPlace settings root) spec.operations
  have sources : List.Forall₂ IsSourceIn
      (directories settings root spec.definitions.length spec.operations.length)
      (list.map (·.path)) := by
    rw [paths]
    exact List.rel_append (.cons request definitions) operations
  have front : list.head?.map (·.path) = some (root.child requestFileName) := by
    rw [← List.head?_map, paths, List.cons_append, List.head?_cons]
  have parents := parents_eq_of_sources sources
  rw [List.map_map] at parents
  exact ⟨front, sources, parents⟩

/-- A document with names that lead out of a directory, hold no characters or hold a null. -/
def straysDocument : Value :=
  .map [(.text "swagger", .text "2.0"),
    (.text "definitions", .map [(.text "../../etc/passwd", .null), (.text "", .null),
      (.int 7, .null), (.text "/class\x00", .null)]),
    (.text "paths", .map [(.text "/a/../b", .map
      [(.text "get", .map [(.text "operationId", .text "../..")]), (.text "put", .map [])])])]

/-- The interface that it describes. -/
def straysSpec : Api.Spec where
  formatVersion := "2.0"
  info := ⟨"Untitled API", "0.0.0", none⟩
  definitions := [⟨"../../etc/passwd", .empty false⟩, ⟨"", .empty false⟩, ⟨"7", .empty false⟩,
    ⟨"/class\x00", .empty false⟩]
  operations := [⟨"../..", "/a/../b", .get, none, .empty false, [], [], none⟩,
    ⟨"putAB", "/a/../b", .put, none, .empty false, [], [], none⟩]

theorem straysSpec_confined : ∃ list, (Api.extract straysDocument).result = .ok straysSpec ∧
    (files .standard ⟨"", ["out"]⟩ straysSpec).result = .ok list ∧
    list.map (·.path.toText) = ["out/APIRequest.ts", "out/models/______etc_passwd.ts",
      "out/models/_.ts", "out/models/_7.ts", "out/models/_class_.ts",
      "out/requests/_____.ts", "out/requests/putAB.ts"] ∧
    Confined (directories .standard ⟨"", ["out"]⟩ 4 2) ⟨"", ["out"]⟩ list := by
  have extracted : (Api.extract straysDocument).result = .ok straysSpec := rfl
  have bundled : Bundled .standard := ⟨rfl, rfl⟩
  have definitions : List.Forall₂ (DefinitionFile .standard ⟨"", ["out"]⟩ straysSpec)
      straysSpec.definitions _ := .cons ⟨_, rfl, rfl, by decide⟩ (.cons ⟨_, rfl, rfl, by decide⟩
    (.cons ⟨_, rfl, rfl, by decide⟩ (.cons ⟨_, rfl, rfl, by decide⟩ .nil)))
  have operations : List.Forall₂ (OperationFile .standard ⟨"", ["out"]⟩ straysSpec)
      straysSpec.operations _ := .cons ⟨_, rfl, rfl, by decide⟩ (.cons ⟨_, rfl, rfl, by decide⟩ .nil)
  have rendered := (files_bundled_eq_ok bundled).mpr ⟨_, _, definitions, operations, rfl⟩
  exact ⟨_, extracted, rendered, by decide +kernel, confined_files rendered⟩

end ClientGen.Client
