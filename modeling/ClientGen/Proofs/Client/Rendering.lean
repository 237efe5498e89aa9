import ClientGen.Proofs.Client.FileList
import ClientGen.Proofs.Client.Operation
import ClientGen.Proofs.Client.Outline
import ClientGen.Proofs.Client.Templates
import ClientGen.Proofs.Template.Output

/-!
# Rendering with the bundled templates

Without templates of one's own a rendering fails only for the shape of its interface: each
definition and each operation gives the text of its outline if all of its references are known. It
takes no template to write them down.
-/

/-!
## Texts of definition files

The file of a definition that the bundled template gives is its outline, written down.
-/

namespace ClientGen.Client

open Template Template.Run TypeScript

/-! ## The template -/

section

variable {convention : Name.Convention} {store : Store} {scope context : Template.Place}

/-- The line of the import of a type of the same directory. -/
def besideLine (item : Datum) : String :=
  match item.text? with
  | some name => Import.line ⟨name, "./" ++ name⟩
  | none => ""

/-- The loop body prints the line of an import. -/
theorem prints_definitionImportCode {depth : Nat} {name : String} {templates : Templates}
    (shown : Shows store scope (local_ "ref") (.text name)) :
    Prints store ((engine convention).machine (depth + 1)) templates scope definitionImportCode
      (.ok (Import.line ⟨name, "./" ++ name⟩)) := by
  have line : Import.line ⟨name, "./" ++ name⟩ =
      "import \x7b " ++ (name ++ (" \x7d from \"./" ++ (name ++ ("\";\n" ++ "")))) := by
    have merged : " \x7d from \"./" = " \x7d from \"" ++ "./" := rfl
    rw [line_import, merged]
    simp only [String.append_assoc, String.append_empty]
  rw [line]
  have named : Reads store (performOne ((engine convention).machine (depth + 1)) templates scope
      (printed (local_ "ref"))) (.ok name) := reads_print_name shown
  exact Prints.text (.cons named (Prints.text (.cons named (Prints.text Prints.nil))))

/-- The instructions after the loop print the exported type. -/
theorem prints_definitionTypeCode (convention : Name.Convention) (depth : Nat) {name : String} {place list : Template.Place}
    {shape : TypeNode} {imports : Array Datum}
    (imported : Shows store scope (given "imports") (.list list))
    (listed : store.cells[list]? = some (.list imports))
    (typeName : Shows store scope (given "type_name") (.text name))
    (schema : Shows store scope (given "schema") (.node place))
    (sealed : store.cells[place]? = some (.sealed shape)) :
    Prints store ((engine convention).machine (depth + 2)) (engine convention).templates scope
      definitionTypeCode
      ((typeResult convention "any" shape).map fun type =>
        (if imports.isEmpty then "" else "\n") ++
          ("export type " ++ name ++ " = " ++ type ++ ";\n")) := by
  have truth : Reads store (isTruthy (.list list)) (.ok !imports.isEmpty) :=
    (Reads.listAt listed).bind_ok (Reads.pure _)
  have gap : Reads store (performOne ((engine convention).machine (depth + 2))
      (engine convention).templates scope
      (.branch (.name (given "imports")) [.text "\n"] [] []))
      (.ok (if imports.isEmpty then "" else "\n")) := by
    refine reads_branch (reads_name imported) truth ?_
    cases imports.isEmpty with
    | true => exact Prints.nil
    | false => exact Prints.text Prints.nil
  have type : Reads store (performOne ((engine convention).machine (depth + 2))
      (engine convention).templates scope
      (.print .plain (.filter (.name (given "schema")) "ts_type" [])))
      (typeResult convention "any" shape) := reads_print (reads_type schema sealed)
  have named : Reads store (performOne ((engine convention).machine (depth + 2))
      (engine convention).templates scope (printed (given "type_name"))) (.ok name) :=
    reads_print_name typeName
  have whole : Prints store ((engine convention).machine (depth + 2))
      (engine convention).templates scope definitionTypeCode _ := Prints.cons gap
    (Prints.text (.cons named (Prints.text (.cons type (Prints.text Prints.nil)))))
  cases written : typeResult convention "any" shape with
  | error problem =>
      rw [written] at whole
      exact whole
  | ok text =>
      rw [written] at whole
      have line : "export type " ++ name ++ " = " ++ text ++ ";\n" =
          "export type " ++ (name ++ (" = " ++ (text ++ (";\n" ++ "")))) := by
        simp only [String.append_assoc, String.append_empty]
      rw [Except.map, line]
      exact whole

end

/-! ## The text -/

/-- The store with the values of a definition file. -/
def definitionStore (definition : Api.Definition) (names : List String) : Store :=
  ⟨#[.sealed definition.schema, .list (names.map Datum.text).toArray], false, none⟩

/-- The values of a definition file. -/
def definitionGiven (definition : Api.Definition) : List (String × Datum) :=
  [("name", .text definition.name), ("type_name", .text (identifier definition.name)),
    ("schema", .node 0), ("imports", .list 1)]

theorem definitionVariables_eq (definition : Api.Definition) (references : List String) :
    definitionVariables definition references Store.empty =
      .ok (definitionGiven definition,
        definitionStore definition (definitionImports definition references)) := rfl

theorem opens_definitionTemplate (definition : Api.Definition) :
    Opens (definitionGiven definition) definitionTemplate.opening := by
  intro entry member
  right
  simp only [definitionTemplate, List.mem_cons, List.not_mem_nil, or_false] at member
  rcases member with rfl | rfl | rfl <;> exact ⟨rfl, rfl⟩

/-- What the template prints for a definition. -/
theorem render_definition (convention : Name.Convention) (definition : Api.Definition)
    (references : List String) :
    (engine convention).render (definitionVariables definition references) definitionTemplate =
      (typeResult convention "any" definition.schema).map fun type =>
        String.join ((definitionImports definition references).map fun name =>
          Import.line ⟨name, "./" ++ name⟩) ++
        ((if (definitionImports definition references).isEmpty then "" else "\n") ++
          ("export type " ++ identifier definition.name ++ " = " ++ type ++ ";\n")) := by
  let names := definitionImports definition references
  refine render_eq (definitionVariables_eq definition references) rfl rfl
    (opens_definitionTemplate definition) ?_
  intro context scope store ready
  have sealed : store.cells[0]? = some (.sealed definition.schema) := ready.kept rfl
  have listed : store.cells[1]? = some (.list (names.map Datum.text).toArray) := ready.kept rfl
  have imported : Shows store scope (given "imports") (.list 1) := ready.shown (by decide) rfl
  have typeName : Shows store scope (given "type_name") (.text (identifier definition.name)) :=
    ready.shown (by decide) rfl
  have schema : Shows store scope (given "schema") (.node 0) := ready.shown (by decide) rfl
  obtain ⟨_, present⟩ := ready.scopeCell
  have turns : ∀ item ∈ (names.map Datum.text).toArray.toList, ∀ now, Extends scope store now →
      ∃ after, turn ((engine convention).machine 2999) scope (local_ "ref")
          definitionImportOpening definitionImportCode item now = .ok (besideLine item, after) ∧
        Extends scope now after := by
    intro item member now extension
    rw [List.toList_toArray, List.mem_map] at member
    obtain ⟨name, _, rfl⟩ := member
    obtain ⟨_, scopeNow, _⟩ := extension.bindings present
    refine turn_eq scopeNow
      (extension.kept present nofun ready.contextCell) ?_ (by decide) (by decide)
      (by decide) fun after _ shown _ => prints_definitionImportCode shown
    intro entry inside
    left
    rw [List.mem_singleton.mp inside]
  have loop : ∃ after, performOne ((engine convention).machine 2999) (engine convention).templates
      scope (.loop (plainLoop (local_ "ref") definitionImportOpening definitionImportCode)
        (.name (given "imports"))) store = .ok (_, after) ∧ Extends scope store after :=
    performOne_loop besideLine present listed (by decide) (reads_name imported) turns
  have lines : ((names.map Datum.text).toArray.toList.map besideLine) =
      names.map fun name => Import.line ⟨name, "./" ++ name⟩ := by
    rw [List.toList_toArray, List.map_map]
    rfl
  rw [lines] at loop
  have rest := fun after (extension : Extends scope store after) =>
    prints_definitionTypeCode convention 2997
      (extension.shows rfl imported) (extension.kept present nofun listed)
      (extension.shows rfl typeName) (extension.shows rfl schema)
      (extension.kept present nofun sealed)
  have whole := Writes.cons loop rest
  have empty : (names.map Datum.text).toArray.isEmpty = names.isEmpty := by
    rw [List.isEmpty_toArray, List.isEmpty_map]
  rw [empty] at whole
  cases written : typeResult convention "any" definition.schema with
  | error problem =>
      rw [written] at whole
      exact whole
  | ok type =>
      rw [written] at whole
      exact whole

/-- The text of a definition file is its outline, if all references are known. -/
theorem definitionText_eq (settings : Settings) (known : List String)
    (definition : Api.Definition) :
    definitionText settings definitionTemplate known definition =
      checkedReferences definition.name known [definition.schema] >>= fun _ =>
        ((definitionOutline settings.naming definition).map Outline.text).mapError .fault := by
  rw [definitionText]
  cases checked : checkedReferences definition.name known [definition.schema] with
  | error problem => rw [error_bind, error_bind]
  | ok references =>
      have collected := (checkedReferences_eq_ok.mp checked).1
      subst collected
      rw [ok_bind, ok_bind, printFor, render_definition, typeResult, ← joined_fragments,
        definitionOutline]
      cases fragments settings.naming "any" 0 definition.schema with
      | error problem => simp only [Except.map, Except.mapError, error_bind]
      | ok parts =>
          rw [ok_bind]
          simp only [Except.map, Except.mapError, Outline.text, definitionImportsOf, List.map_map,
            Outline.gap, List.isEmpty_map, List.map_cons, List.map_nil, String.join_cons,
            String.join_nil, String.append_empty, Fragment.joined_nil, line_export,
            Function.comp_def]

end ClientGen.Client

/-!
## The file that all requests refer to

Its source has no tags, so that it is printed as it stands, whatever the settings are.
-/

namespace ClientGen.Client

open Template Template.Run Template.Compilation

/-- The template of the file that all requests refer to. -/
def requestTemplate : Template where
  current := none
  opening := []
  body := [.text requestSource]
  blocks := []

/-- A source without tags is one piece of text. -/
theorem ofSource_of_tagless {text : String} (present : text.toList.isEmpty = false)
    (unified : Text.unifyLineEnds text.toList = text.toList)
    (tagless : Piece.cutWhere Piece.opening? text.toList = (text.toList, none)) :
    Piece.ofSource text.toList = .ok [.text text] := by
  rw [Piece.ofSource, unified, Piece.divide, tagless]
  dsimp only
  rw [Piece.ofText, present, if_neg Bool.false_ne_true, String.ofList_toList]

-- The literals are opened as lists first: the kernel would decode their octets.
private theorem tagless_requestSource :
    requestSource.toList.isEmpty = false ∧
      Text.unifyLineEnds requestSource.toList = requestSource.toList ∧
      Piece.cutWhere Piece.opening? requestSource.toList = (requestSource.toList, none) := by
  simp only [requestSource, source, String.toList_join, List.map, List.flatMap_cons,
    List.flatMap_nil, String.toList_append, List.append_assoc]
  repeat rewrite [String.toList_ofList]
  decide +kernel

/-- Its source compiles. -/
theorem compileSource_requestSource : compileSource requestSource = .ok requestTemplate := by
  have code : Compiles (topFrame knownFilters Scope.outermost) [.text requestSource]
      [.text requestSource] :=
    Compiles.text (plain_topFrame knownFilters Scope.outermost) Compiles.nil
  obtain ⟨present, unified, tagless⟩ := tagless_requestSource
  exact compile_eq (ofSource_of_tagless present unified tagless) rfl
    (templateCode_eq rfl rfl rfl rfl code)

theorem render_request (convention : Name.Convention) :
    (engine convention).render (pure []) requestTemplate = .ok requestSource := by
  have printed : Except.map (requestSource ++ ·) (.ok "" : Result String) = .ok requestSource := by
    rw [Except.map, String.append_empty]
  rw [← printed]
  refine render_eq rfl rfl rfl nofun ?_
  intro context scope store ready
  exact Writes.text Prints.nil.writes

/-- The file never fails. -/
theorem requestFile_eq (settings : Settings) (root : Path) :
    requestFile settings root = .ok ⟨root.child requestFileName, requestSource⟩ := by
  rw [requestFile, loadTemplate, Option.getD_none, compileSource_requestSource]
  show (printFor requestOwner settings.naming requestTemplate (pure []) >>= fun text =>
    .ok ⟨root.child requestFileName, text⟩ : Except Problem File) = _
  rw [printFor, render_request]
  rfl

end ClientGen.Client

namespace ClientGen.Client

/-! ## Settings -/

/-- Settings that put no template in the place of a bundled one. -/
structure Bundled (settings : Settings) : Prop where
  definition : settings.definitionTemplate = none
  operation : settings.operationTemplate = none

variable {settings : Settings} {root : Path} {spec : Api.Spec}

theorem loadTemplate_operationSource :
    loadTemplate operationTemplateName operationSource none = .ok operationTemplate := by
  rw [loadTemplate, Option.getD_none, compileSource_operationSource]
  rfl

/-- Such settings ask for the bundled templates. -/
theorem Bundled.loads_iff {first second : Template.Template} (bundled : Bundled settings) :
    Loads settings first second ↔ first = definitionTemplate ∧ second = operationTemplate := by
  have definition : loadTemplate definitionTemplateName definitionSource
      settings.definitionTemplate = .ok definitionTemplate := by
    rw [bundled.definition, loadTemplate, Option.getD_none, compileSource_definitionSource]
    rfl
  have operation : loadTemplate operationTemplateName operationSource
      settings.operationTemplate = .ok operationTemplate := by
    rw [bundled.operation, loadTemplate_operationSource]
  constructor
  · intro loads
    have firstLoaded := definition.symm.trans loads.definition
    have secondLoaded := operation.symm.trans loads.operation
    exact ⟨(Except.ok.inj firstLoaded).symm, (Except.ok.inj secondLoaded).symm⟩
  · rintro ⟨rfl, rfl⟩
    exact ⟨definition, operation⟩

/-! ## Single files -/

/-- The file of a definition, as the bundled template gives it. -/
def DefinitionFile (settings : Settings) (root : Path) (spec : Api.Spec)
    (definition : Api.Definition) (file : File) : Prop :=
  ∃ outline, definitionOutline settings.naming definition = .ok outline ∧
    file = ⟨definitionPlace settings root definition, outline.text⟩ ∧
    ∀ name ∈ TypeNode.referencesOfAll [definition.schema], name ∈ spec.definitions.map (·.name)

/-- The file of an operation, as the bundled template gives it. -/
def OperationFile (settings : Settings) (root : Path) (spec : Api.Spec)
    (operation : Api.Operation) (file : File) : Prop :=
  ∃ outline, operationOutline settings.naming settings.definitionDir operation = .ok outline ∧
    file = ⟨operationPlace settings root operation, outline.text⟩ ∧
    ∀ name ∈ TypeNode.referencesOfAll operation.nodes, name ∈ spec.definitions.map (·.name)

/-- An outline that is written down where all references are known. -/
private theorem written_eq_ok {known : List String} {owner : String} {nodes : List TypeNode}
    {outlined : Except Fault Outline} {place : Path} {file : File} :
    ((checkedReferences owner known nodes >>= fun _ =>
        (outlined.map Outline.text).mapError Problem.fault) >>= fun text => .ok ⟨place, text⟩) =
        (.ok file : Except Problem File) ↔
      ∃ outline, outlined = .ok outline ∧ file = ⟨place, outline.text⟩ ∧
        ∀ name ∈ TypeNode.referencesOfAll nodes, name ∈ known := by
  constructor
  · intro made
    obtain ⟨text, written, file_eq⟩ := bind_eq_ok.mp made
    obtain ⟨references, checked, written⟩ := bind_eq_ok.mp written
    obtain ⟨outline, outlined, rfl⟩ := map_eq_ok.mp (mapError_eq_ok.mp written)
    exact ⟨outline, outlined, (Except.ok.inj file_eq).symm, (checkedReferences_eq_ok.mp checked).2⟩
  · rintro ⟨outline, outlined, rfl, all⟩
    have checked : checkedReferences owner known nodes = _ :=
      checkedReferences_eq_ok.mpr ⟨rfl, all⟩
    refine bind_eq_ok.mpr ⟨outline.text, bind_eq_ok.mpr ⟨_, checked, ?_⟩, rfl⟩
    exact mapError_eq_ok.mpr (map_eq_ok.mpr ⟨outline, outlined, rfl⟩)

theorem definitionFile_eq_ok {definition : Api.Definition} {file : File} :
    definitionFile settings (root.child settings.definitionDir) definitionTemplate
        (spec.definitions.map (·.name)) definition = .ok file ↔
      DefinitionFile settings root spec definition file := by
  rw [definitionFile, definitionText_eq]
  exact written_eq_ok

theorem operationFile_eq_ok {operation : Api.Operation} {file : File} :
    operationFile settings (root.child settings.operationDir) operationTemplate
        (spec.definitions.map (·.name)) operation = .ok file ↔
      OperationFile settings root spec operation file := by
  rw [operationFile, operationText_eq]
  exact written_eq_ok

/-! ## All files -/

/-- What the bundled templates give for an interface: the file of requests, and the outlines of all
definitions and operations. -/
theorem files_bundled_eq_ok {list : List File} (bundled : Bundled settings) :
    (files settings root spec).result = .ok list ↔
      ∃ definitions operations,
        List.Forall₂ (DefinitionFile settings root spec) spec.definitions definitions ∧
        List.Forall₂ (OperationFile settings root spec) spec.operations operations ∧
        list = ⟨root.child requestFileName, requestSource⟩ :: definitions ++ operations := by
  rw [files_eq_ok]
  constructor
  · rintro ⟨_, _, loads, request, definitions, operations, parts, list_eq⟩
    obtain ⟨rfl, rfl⟩ := bundled.loads_iff.mp loads
    have request_eq := parts.request
    rw [requestFile_eq] at request_eq
    rw [← Except.ok.inj request_eq] at list_eq
    exact ⟨definitions, operations, parts.definitions.imp fun _ _ => definitionFile_eq_ok.mp,
      parts.operations.imp fun _ _ => operationFile_eq_ok.mp, list_eq⟩
  · rintro ⟨definitions, operations, definitionFiles, operationFiles, list_eq⟩
    refine ⟨_, _, bundled.loads_iff.mpr ⟨rfl, rfl⟩, _, definitions, operations,
      ⟨requestFile_eq settings root, ?_, ?_⟩, list_eq⟩
    · exact definitionFiles.imp fun _ _ => definitionFile_eq_ok.mpr
    · exact operationFiles.imp fun _ _ => operationFile_eq_ok.mpr

end ClientGen.Client

/-!
## Rendering without templates

With the bundled sources a rendering comes down to outlines that are written down: no template takes
part in it. It is the same, problems and records included, whether the sources are those of the
bundle or are handed over in their place.
-/

namespace ClientGen.Client

variable {settings : Settings} {root : Path} {spec : Api.Spec}

/-! ## Writing outlines down -/

/-- The text of an outline, if the references of all nodes are known. -/
def outlinedText (owner : String) (known : List String) (nodes : List TypeNode)
    (outlined : Except Fault Outline) : Except Problem String :=
  checkedReferences owner known nodes >>= fun _ => (outlined.map Outline.text).mapError .fault

/-- The file of a definition from its outline. -/
def outlinedDefinition (settings : Settings) (root : Path) (known : List String)
    (definition : Api.Definition) : Except Problem File := do
  let text ← outlinedText definition.name known [definition.schema]
    (definitionOutline settings.naming definition)
  .ok ⟨definitionPlace settings root definition, text⟩

/-- The files of operations from their outlines; the names of earlier operation files are known. -/
def outlinedOperations (settings : Settings) (root : Path) (known : List String) :
    (earlier : List String) → List Api.Operation → Logged (List File)
  | _, [] => Logged.pure []
  | earlier, operation :: rest => do
      noteOverwrite earlier operation
      let text ← Logged.ofResult (outlinedText operation.name known operation.nodes
        (operationOutline settings.naming settings.definitionDir operation))
      let files ← outlinedOperations settings root known (fileName operation.name :: earlier) rest
      pure (⟨operationPlace settings root operation, text⟩ :: files)

/-- The files of a client from the outlines of its definitions and operations. -/
def outlinedFiles (settings : Settings) (root : Path) (spec : Api.Spec) : Logged (List File) := do
  let known := spec.definitions.map (·.name)
  let definitions ← Logged.ofResult (spec.definitions.mapM (outlinedDefinition settings root known))
  let operations ← outlinedOperations settings root known [] spec.operations
  pure (⟨root.child requestFileName, requestSource⟩ :: definitions ++ operations)

/-! ## Rendering -/

theorem definitionFile_eq_outlined (known : List String) (definition : Api.Definition) :
    definitionFile settings (root.child settings.definitionDir) definitionTemplate known
      definition = outlinedDefinition settings root known definition := by
  rw [definitionFile, definitionText_eq]
  rfl

/-- The loop over operations writes outlines down, with the same records. -/
theorem operationFiles_eq_outlined (known : List String) (operations : List Api.Operation) :
    ∀ earlier : List String,
      operationFiles settings (root.child settings.operationDir) operationTemplate known earlier
        operations = outlinedOperations settings root known earlier operations := by
  induction operations with
  | nil => exact fun _ => rfl
  | cons operation rest ih =>
      intro earlier
      simp only [operationFiles, outlinedOperations, operationText_eq, ih]
      rfl

/-- A rendering whose templates come out as the bundled ones writes outlines down. -/
theorem Loads.files_eq_outlined (loads : Loads settings definitionTemplate operationTemplate) :
    files settings root spec = outlinedFiles settings root spec := by
  have defined : definitionFile settings (root.child settings.definitionDir) definitionTemplate
      (spec.definitions.map (·.name)) =
        outlinedDefinition settings root (spec.definitions.map (·.name)) :=
    funext (definitionFile_eq_outlined _)
  rw [files, loads.definition, loads.operation, requestFile_eq]
  show (Logged.ofResult (spec.definitions.mapM _) >>= fun definitions => _ : Logged (List File)) = _
  simp only [defined, operationFiles_eq_outlined]
  rfl

theorem Bundled.files_eq_outlined (bundled : Bundled settings) :
    files settings root spec = outlinedFiles settings root spec :=
  (bundled.loads_iff.mpr ⟨rfl, rfl⟩).files_eq_outlined

/-! ## Bundled sources as templates of one's own -/

/-- Settings that hand the bundled sources over as templates of one's own. -/
def Settings.handingOver (settings : Settings) : Settings :=
  { settings with
    definitionTemplate := some definitionSource
    operationTemplate := some operationSource }

/-- Settings without templates of one's own. -/
def Settings.withoutTemplates (settings : Settings) : Settings :=
  { settings with definitionTemplate := none, operationTemplate := none }

theorem bundled_withoutTemplates (settings : Settings) : Bundled settings.withoutTemplates :=
  ⟨rfl, rfl⟩

/-- Templates of one's own have no part in the outlines of operations. -/
theorem outlinedOperations_handingOver (known : List String) (operations : List Api.Operation) :
    ∀ earlier : List String,
      outlinedOperations settings.handingOver root known earlier operations =
        outlinedOperations settings.withoutTemplates root known earlier operations := by
  induction operations with
  | nil => exact fun _ => rfl
  | cons operation rest ih =>
      intro earlier
      simp only [outlinedOperations, ih]
      rfl

theorem outlinedFiles_handingOver :
    outlinedFiles settings.handingOver root spec =
      outlinedFiles settings.withoutTemplates root spec := by
  simp only [outlinedFiles, outlinedOperations_handingOver]
  rfl

/-- The sources of the bundle compile to its templates also when they are handed over. -/
theorem loads_handingOver (settings : Settings) :
    Loads settings.handingOver definitionTemplate operationTemplate := by
  constructor
  · rw [Settings.handingOver, loadTemplate, Option.getD_some, compileSource_definitionSource]
    rfl
  · rw [Settings.handingOver, loadTemplate, Option.getD_some, compileSource_operationSource]
    rfl

/-- A rendering with the bundled sources as templates of one's own and one without any give the same
files or the same problem, and leave the same records: both write down the same outlines. -/
theorem files_handingOver_eq (settings : Settings) (root : Path) (spec : Api.Spec) :
    files settings.handingOver root spec = files settings.withoutTemplates root spec ∧
      files settings.withoutTemplates root spec =
        outlinedFiles settings.withoutTemplates root spec := by
  have own : files settings.handingOver root spec =
      outlinedFiles settings.handingOver root spec :=
    (loads_handingOver settings).files_eq_outlined
  have bundle : files settings.withoutTemplates root spec =
      outlinedFiles settings.withoutTemplates root spec :=
    (bundled_withoutTemplates settings).files_eq_outlined
  rw [own, bundle]
  exact ⟨outlinedFiles_handingOver, rfl⟩

end ClientGen.Client
