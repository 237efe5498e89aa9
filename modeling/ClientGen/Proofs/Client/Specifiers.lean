import ClientGen.Client.Files
import ClientGen.Proofs.Client.Linking

/-!
# Modules of imports

An import names its module by the steps that lead from the directory of its file. The steps that
lead from an operation file start with one step up, so that they arrive exactly if the directory of
operations is directly below the directory of all files. Definition files are next to each other,
wherever their directory is.
-/

namespace ClientGen.Client

open TypeScript

variable {settings : Settings} {root : Path} {spec : Api.Spec} {list : List File}
  {convention : Name.Convention} {outline : Outline}

/-! ## Specifiers -/

/-- What stands between the first two quotation marks of a text. -/
def quotedPart (text : String) : String :=
  String.ofList (((text.toList.dropWhile (· ≠ '"')).drop 1).takeWhile (· ≠ '"'))

/-- The module that an import line names, seen from the file at a place. -/
def moduleOf (directory place : Path) (entry : Import) : Path :=
  target (target directory place).parent (Path.ofText (quotedPart entry.line ++ ".ts"))

/-- The specifier of an import stands in its line as it is. -/
theorem quotedPart_line {name source : String} (plain : '"' ∉ name.toList)
    (quoteless : '"' ∉ source.toList) : quotedPart (Import.line ⟨name, source⟩) = source := by
  have chars : (Import.line ⟨name, source⟩).toList =
      ("import \x7b " ++ name ++ " \x7d from ").toList ++
        '"' :: (source.toList ++ '"' :: ";\n".toList) := by
    simp only [Import.line, String.toList_append, List.append_assoc]
    rfl
  have before : '"' ∉ ("import \x7b " ++ name ++ " \x7d from ").toList := by
    simp only [String.toList_append, List.mem_append, not_or]
    exact ⟨⟨by decide, plain⟩, by decide⟩
  have passed : ∀ list : List Char, '"' ∉ list → ∀ c ∈ list, decide (c ≠ '"') = true :=
    fun list absent c member => decide_eq_true fun same => absent (same ▸ member)
  rw [quotedPart, chars, List.dropWhile_append_of_pos (passed _ before),
    List.dropWhile_cons_of_neg (by simp), List.drop_one, List.tail_cons,
    List.takeWhile_append_of_pos (passed _ quoteless), List.takeWhile_cons_of_neg (by simp),
    List.append_nil, String.ofList_toList]

theorem quote_notMem_identifier (name : String) : '"' ∉ (identifier name).toList := by
  intro member
  rw [toList_identifier] at member
  exact absurd (isIdentifierChar_of_mem_identifierChars member) (by decide)

/-! ## Places of modules -/

/-- The place of the type of a definition. -/
def typePlace (settings : Settings) (root : Path) (name : String) : Path :=
  (root.child settings.definitionDir).child (fileName name)

theorem fileName_ne_up (name : String) : fileName name ≠ ".." := by
  intro same
  have chars := congrArg String.toList same
  rw [toList_fileName] at chars
  have last := congrArg List.getLast? chars
  simp at last

/-- A file goes below its directory. -/
theorem target_child_fileName (directory place : Path) (name : String) :
    target directory (place.child (fileName name)) =
      ⟨"/", (target directory place).parts ++ [fileName name]⟩ := by
  rw [target, Path.child, ofText_fileName, Path.append_append,
    Path.normal_append_singleton _ (fileName_ne_up name)]
  rfl

theorem parent_target_child_fileName (directory place : Path) (name : String) :
    (target directory (place.child (fileName name))).parent = target directory place := by
  rw [target_child_fileName, Path.parent, List.dropLast_concat]
  rfl

/-- Names that lead from where a directory leads to. -/
theorem target_target (directory place : Path) (names : List String) :
    target (target directory place) ⟨"", names⟩ =
      target directory (place.append ⟨"", names⟩) := by
  rw [target, target, Path.normal_append_normal, target, Path.append_append]

/-- A step up from where a directory leads to. -/
theorem target_up (directory place : Path) (names : List String) :
    target (target directory place) ⟨"", ".." :: names⟩ =
      target (target directory place).parent ⟨"", names⟩ := by
  have settled : (target directory place).IsNormal := Path.isNormal_normal _
  rw [target, Path.normal_append_up, settled.normal_eq]
  rfl

/-! ## Modules of imports -/

theorem ofText_sibling (name : String) :
    Path.ofText ("./" ++ identifier name ++ ".ts") = ⟨"", [fileName name]⟩ := by
  have text : "./" ++ identifier name ++ ".ts" = "." ++ "/" ++ fileName name :=
    String.append_assoc
  have here : (Path.ofText ".").parts = [] := by decide
  rw [text, Path.ofText_of_point (by decide), ofText_fileName, here, List.nil_append]

theorem ofText_up (directory name : String) :
    Path.ofText ("../" ++ directory ++ "/" ++ identifier name ++ ".ts") =
      ⟨"", ".." :: ((Path.ofText directory).parts ++ [fileName name])⟩ := by
  have text : "../" ++ directory ++ "/" ++ identifier name ++ ".ts" =
      ".." ++ "/" ++ (directory ++ "/" ++ fileName name) := by
    have front : "../" = ".." ++ "/" := by decide
    simp only [fileName, front, String.append_assoc]
  have up : (Path.ofText "..").parts = [".."] := by decide
  rw [text, Path.ofText_of_point (by decide), Path.parts_ofText_append, ofText_fileName, up,
    List.singleton_append]

/-- A definition file imports from the files next to it. -/
theorem moduleOf_sibling (directory place : Path) (owner name : String) :
    moduleOf directory (place.child (fileName owner)) ⟨identifier name, "./" ++ identifier name⟩ =
      target directory (place.child (fileName name)) := by
  have quoteless : '"' ∉ ("./" ++ identifier name).toList := by
    rw [String.toList_append, List.mem_append, not_or]
    exact ⟨by decide, quote_notMem_identifier name⟩
  rw [moduleOf, quotedPart_line (quote_notMem_identifier name) quoteless, ofText_sibling,
    parent_target_child_fileName, target_target, Path.child, ofText_fileName]

/-- An operation file imports definitions from the parent of its directory. -/
theorem moduleOf_definition {definitionDir : String} (quoteless : '"' ∉ definitionDir.toList)
    (directory place : Path) (owner name : String) :
    moduleOf directory (place.child (fileName owner))
        ⟨identifier name, "../" ++ definitionDir ++ "/" ++ identifier name⟩ =
      target (target directory place).parent
        ⟨"", (Path.ofText definitionDir).parts ++ [fileName name]⟩ := by
  have source : '"' ∉ ("../" ++ definitionDir ++ "/" ++ identifier name).toList := by
    simp only [String.toList_append, List.mem_append, not_or]
    exact ⟨⟨⟨by decide, quoteless⟩, by decide⟩, quote_notMem_identifier name⟩
  rw [moduleOf, quotedPart_line (quote_notMem_identifier name) source, ofText_up,
    parent_target_child_fileName, target_up]

/-- An operation file imports the type of requests from the parent of its directory. -/
theorem moduleOf_request (directory place : Path) (owner : String) :
    moduleOf directory (place.child (fileName owner)) requestImport =
      target (target directory place).parent ⟨"", [requestFileName]⟩ := by
  have text : Path.ofText ("../" ++ requestOwner ++ ".ts") = ⟨"", ["..", requestFileName]⟩ := by
    decide
  rw [moduleOf, requestImport, quotedPart_line (by decide) (by decide), text,
    parent_target_child_fileName, target_up]

/-! ## Files that are imported -/

/-- Whether the directory of operation files is directly below the directory of all files. -/
def DirectlyBelow (directory root : Path) (settings : Settings) : Prop :=
  (target directory (root.child settings.operationDir)).parent = target directory root

/-- Imports that lead from the file at a place to generated files, one for each of them. -/
structure LeadTo (directory : Path) (list : List File) (place : Path) (imports : List Import)
    (suppliers : List Path) : Prop where
  modules : imports.map (moduleOf directory place) = suppliers.map (target directory)
  generated : suppliers ⊆ list.map (·.path)

/-- Every one of such imports names the module of a generated file. -/
theorem LeadTo.exists_file {directory place : Path} {imports : List Import}
    {suppliers : List Path} (leads : LeadTo directory list place imports suppliers) :
    ∀ entry ∈ imports, ∃ file ∈ list,
      moduleOf directory place entry = target directory file.path := by
  intro entry member
  have module : moduleOf directory place entry ∈ imports.map (moduleOf directory place) :=
    List.mem_map_of_mem member
  rw [leads.modules] at module
  obtain ⟨supplier, found, same⟩ := List.mem_map.mp module
  obtain ⟨file, present, rfl⟩ := List.mem_map.mp (leads.generated found)
  exact ⟨file, present, same.symm⟩

/-- The files that a definition file imports from. -/
def definitionSuppliers (settings : Settings) (root : Path) (definition : Api.Definition) :
    List Path :=
  ((TypeNode.referencesOfAll [definition.schema]).filter (· ≠ definition.name)).map
    (typePlace settings root)

/-- The files that an operation file imports from. -/
def operationSuppliers (settings : Settings) (root : Path) (operation : Api.Operation) :
    List Path :=
  root.child requestFileName ::
    (TypeNode.referencesOfAll operation.nodes).map (typePlace settings root)

/-- The request file is reached from directories directly below its own. -/
theorem moduleOf_request_iff (directory root place : Path) (owner : String) :
    moduleOf directory (place.child (fileName owner)) requestImport =
        target directory (root.child requestFileName) ↔
      (target directory place).parent = target directory root := by
  have settled : (target directory place).IsNormal := Path.isNormal_normal _
  rw [moduleOf_request, target, Path.normal_append_singleton _ (by decide),
    settled.parent.normal_eq, requestFileName_eq, target_child_fileName, Path.mk.injEq,
    List.append_left_inj]
  constructor
  · rintro ⟨_, same⟩
    exact congrArg (Path.mk "/") same
  · intro same
    exact ⟨rfl, congrArg Path.parts same⟩

/-- Definitions are reached from directories directly below the directory of all files. -/
theorem moduleOf_definition_eq {directory place : Path}
    (relative : (Path.ofText settings.definitionDir).isAbsolute = false)
    (quoteless : '"' ∉ settings.definitionDir.toList)
    (below : (target directory place).parent = target directory root) (owner name : String) :
    moduleOf directory (place.child (fileName owner))
        ⟨identifier name, "../" ++ settings.definitionDir ++ "/" ++ identifier name⟩ =
      target directory (typePlace settings root name) := by
  have below_root : root.append ⟨"", (Path.ofText settings.definitionDir).parts ++
      [fileName name]⟩ = typePlace settings root name := by
    rw [typePlace, Path.child, ofText_fileName, Path.child, Path.eq_of_relative relative]
    exact Path.append_append root ⟨"", _⟩ [fileName name]
  rw [moduleOf_definition quoteless, below, target_target, below_root]

/-- A directory with a single name is directly below the directory of all files. -/
theorem directlyBelow_of_isStep (directory : Path)
    (slashless : '/' ∉ settings.operationDir.toList)
    (step : Path.isStep settings.operationDir.toList = true)
    (down : settings.operationDir ≠ "..") : DirectlyBelow directory root settings := by
  rw [DirectlyBelow, target, Path.child, Path.ofText_of_isStep slashless step, Path.append_append,
    Path.normal_append_singleton _ down, Path.parent, List.dropLast_concat]
  rfl

/-- The files of all references are generated. -/
theorem typePlaces_subset {references : List String}
    (rendered : (files settings root spec).result = .ok list)
    (known : ∀ name ∈ references, name ∈ spec.definitions.map (·.name)) :
    references.map (typePlace settings root) ⊆ list.map (·.path) := by
  intro place member
  obtain ⟨name, mentioned, rfl⟩ := List.mem_map.mp member
  obtain ⟨definition, found, rfl⟩ := List.mem_map.mp (known name mentioned)
  rw [paths_files rendered]
  exact List.mem_append_left _ (List.mem_cons_of_mem _ (List.mem_map_of_mem found))

/-- The imports of a definition file lead to the files that it needs. -/
theorem leadTo_definition {definition : Api.Definition} (directory : Path)
    (rendered : (files settings root spec).result = .ok list)
    (outlined : definitionOutline convention definition = .ok outline)
    (known : ∀ name ∈ TypeNode.referencesOfAll [definition.schema],
      name ∈ spec.definitions.map (·.name)) :
    LeadTo directory list (definitionPlace settings root definition) outline.imports
      (definitionSuppliers settings root definition) := by
  refine ⟨?_, typePlaces_subset rendered fun name member => ?_⟩
  · rw [imports_definitionOutline outlined, definitionSuppliers, List.map_map, List.map_map]
    refine List.map_congr_left fun name _ => ?_
    exact moduleOf_sibling directory _ definition.name name
  · exact known name (List.mem_filter.mp member).1

/-- The imports of an operation file lead to the files that it needs exactly if its directory is
directly below the directory of all files. -/
theorem leadTo_operation_iff {operation : Api.Operation} (directory : Path)
    (relative : (Path.ofText settings.definitionDir).isAbsolute = false)
    (quoteless : '"' ∉ settings.definitionDir.toList)
    (rendered : (files settings root spec).result = .ok list)
    (outlined : operationOutline convention settings.definitionDir operation = .ok outline)
    (known : ∀ name ∈ TypeNode.referencesOfAll operation.nodes,
      name ∈ spec.definitions.map (·.name)) :
    LeadTo directory list (operationPlace settings root operation) outline.imports
        (operationSuppliers settings root operation) ↔
      DirectlyBelow directory root settings := by
  have imports := imports_operationOutline outlined
  have request := moduleOf_request_iff directory root (root.child settings.operationDir)
    operation.name
  constructor
  · intro leads
    have modules := leads.modules
    rw [imports, operationSuppliers, List.map_cons, List.map_cons, List.cons.injEq] at modules
    exact request.mp modules.1
  · intro below
    refine ⟨?_, List.cons_subset.mpr ⟨?_, typePlaces_subset rendered known⟩⟩
    · rw [imports, operationSuppliers, List.map_cons, List.map_cons, operationImportsOf,
        List.map_map, List.map_map]
      refine List.cons_eq_cons.mpr ⟨request.mpr below, List.map_congr_left fun name _ => ?_⟩
      exact moduleOf_definition_eq relative quoteless below operation.name name
    · rw [paths_files rendered]
      exact List.mem_append_left _ List.mem_cons_self

/-- A definition file whose imports lead to the files that it needs. -/
def DefinitionLeads (directory : Path) (settings : Settings) (root : Path) (list : List File)
    (definition : Api.Definition) (file : File) : Prop :=
  ∃ outline, definitionOutline settings.naming definition = .ok outline ∧
    file = ⟨definitionPlace settings root definition, outline.text⟩ ∧
    LeadTo directory list (definitionPlace settings root definition) outline.imports
      (definitionSuppliers settings root definition)

/-- An operation file whose imports lead to the files that it needs exactly under a condition. -/
def OperationLeadsIff (condition : Prop) (directory : Path) (settings : Settings) (root : Path)
    (list : List File) (operation : Api.Operation) (file : File) : Prop :=
  ∃ outline, operationOutline settings.naming settings.definitionDir operation = .ok outline ∧
    file = ⟨operationPlace settings root operation, outline.text⟩ ∧
    (LeadTo directory list (operationPlace settings root operation) outline.imports
      (operationSuppliers settings root operation) ↔ condition)

/-- With the bundled templates, the imports of every definition file lead to generated files. The
imports of an operation file do so exactly if the directory of operations is directly below the
directory of all files. -/
theorem files_lead_iff (directory : Path) (bundled : Bundled settings)
    (relative : (Path.ofText settings.definitionDir).isAbsolute = false)
    (quoteless : '"' ∉ settings.definitionDir.toList)
    (rendered : (files settings root spec).result = .ok list) :
    ∃ definitions operations,
      list = ⟨root.child requestFileName, requestSource⟩ :: definitions ++ operations ∧
        List.Forall₂ (DefinitionLeads directory settings root list) spec.definitions definitions ∧
        List.Forall₂ (OperationLeadsIff (DirectlyBelow directory root settings) directory settings
          root list) spec.operations operations := by
  obtain ⟨definitions, operations, definitionFiles, operationFiles, list_eq⟩ :=
    (files_bundled_eq_ok bundled).mp rendered
  refine ⟨definitions, operations, list_eq, ?_, ?_⟩
  · refine definitionFiles.imp fun definition file made => ?_
    obtain ⟨outline, outlined, rfl, known⟩ := made
    exact ⟨outline, outlined, rfl, leadTo_definition directory rendered outlined known⟩
  · refine operationFiles.imp fun operation file made => ?_
    obtain ⟨outline, outlined, rfl, known⟩ := made
    exact ⟨outline, outlined, rfl,
      leadTo_operation_iff directory relative quoteless rendered outlined known⟩

/-- Settings with a directory of operations that is two steps below. -/
def nestedSettings : Settings := { Settings.standard with operationDir := "api/requests" }

private theorem files_nested : ∃ list,
    (files nestedSettings ⟨"", []⟩ petSpec).result = .ok list := by
  have definitions : List.Forall₂ (DefinitionFile nestedSettings ⟨"", []⟩ petSpec)
      petSpec.definitions _ := .cons ⟨_, rfl, rfl, by decide⟩ (.cons ⟨_, rfl, rfl, by decide⟩
    (.cons ⟨_, rfl, rfl, by decide⟩ .nil))
  have operations : List.Forall₂ (OperationFile nestedSettings ⟨"", []⟩ petSpec)
      petSpec.operations _ := .cons ⟨_, rfl, rfl, by decide⟩ .nil
  exact ⟨_, (files_bundled_eq_ok ⟨rfl, rfl⟩).mpr ⟨_, _, definitions, operations, rfl⟩⟩

theorem nestedSettings_lead_iff : ∃ list, Bundled nestedSettings ∧
    (Path.ofText nestedSettings.definitionDir).isAbsolute = false ∧
    '"' ∉ nestedSettings.definitionDir.toList ∧
    (files nestedSettings ⟨"", []⟩ petSpec).result = .ok list ∧
    ∃ definitions operations,
      list = ⟨Path.child ⟨"", []⟩ requestFileName, requestSource⟩ :: definitions ++ operations ∧
        List.Forall₂ (DefinitionLeads ⟨"/", ["work"]⟩ nestedSettings ⟨"", []⟩ list)
          petSpec.definitions definitions ∧
        List.Forall₂ (OperationLeadsIff (DirectlyBelow ⟨"/", ["work"]⟩ ⟨"", []⟩ nestedSettings)
          ⟨"/", ["work"]⟩ nestedSettings ⟨"", []⟩ list) petSpec.operations operations := by
  obtain ⟨list, rendered⟩ := files_nested
  have bundled : Bundled nestedSettings := ⟨rfl, rfl⟩
  have relative : (Path.ofText nestedSettings.definitionDir).isAbsolute = false := by decide
  have quoteless : '"' ∉ nestedSettings.definitionDir.toList := by decide
  exact ⟨list, bundled, relative, quoteless, rendered,
    files_lead_iff _ bundled relative quoteless rendered⟩

/-- An operation file two steps below imports from modules that are no generated files. -/
theorem nestedSettings_lead_astray : ∃ (list : List File) (file : File) (outline : Outline),
    (files nestedSettings ⟨"", []⟩ petSpec).result = .ok list ∧ file ∈ list ∧
      file.content = outline.text ∧ outline.imports ≠ [] ∧
      ∀ entry ∈ outline.imports, ∀ other ∈ list,
        moduleOf ⟨"/", ["work"]⟩ file.path entry ≠ target ⟨"/", ["work"]⟩ other.path := by
  obtain ⟨list, rendered⟩ := files_nested
  obtain ⟨_, operations, _, made, list_eq⟩ := (files_bundled_eq_ok ⟨rfl, rfl⟩).mp rendered
  obtain ⟨file, present, outline, outlined, file_eq, _⟩ := exists_of_forall₂ made List.mem_cons_self
  have content : file.content = outline.text := by rw [file_eq]
  have inside : file ∈ list := list_eq ▸ List.mem_append_right _ present
  refine ⟨list, file, outline, rendered, inside, content, ?_, ?_⟩
  · rw [imports_operationOutline outlined]
    nofun
  · have places : ∀ other ∈ list, other.path ∈ list.map (·.path) :=
      fun other member => List.mem_map_of_mem member
    rw [paths_files rendered] at places
    have astray : ∀ entry ∈ requestImport :: operationImportsOf "models" petSpec.operations[0],
        ∀ place ∈ Path.child ⟨"", []⟩ requestFileName ::
            petSpec.definitions.map (definitionPlace nestedSettings ⟨"", []⟩) ++
            petSpec.operations.map (operationPlace nestedSettings ⟨"", []⟩),
          moduleOf ⟨"/", ["work"]⟩
            (operationPlace nestedSettings ⟨"", []⟩ petSpec.operations[0]) entry ≠
              target ⟨"/", ["work"]⟩ place := by
      decide +kernel
    rw [imports_operationOutline outlined, file_eq]
    exact fun entry member other found => astray entry member _ (places other found)

end ClientGen.Client
