import ClientGen.Proofs.Api.Extraction
import ClientGen.Proofs.Client.Rendering
import ClientGen.Proofs.TypeScript.Identifier

/-!
# Placeholders in operation files

An operation file declares the type of its path parameter and reads the placeholders of its path
from a value of that type. For every placeholder that the document declares a parameter for, it
reads the key that it declares, written in the same form.
-/

namespace ClientGen.Client

open TypeScript TypeScript.Fragment

variable {settings : Settings} {root : Path} {spec : Api.Spec} {operation : Api.Operation}

/-! ## Texts of operation files -/

/-- The imports at the start of an operation file. -/
def importLines (settings : Settings) (operation : Api.Operation) : String :=
  String.join ((requestImport :: operationImportsOf settings.definitionDir operation).map
    Import.line)

/-- The end of an operation file, behind its path. -/
def requestEnd (operation : Api.Operation) : String :=
  ",\n    query: queryParameter,\n" ++
    ((if operation.body.isSome then "    body: body,\n" else "") ++ "  \x7d;\n\x7d\n")

theorem requestEnd_eq (operation : Api.Operation) :
    requestEnd operation = ",\n    query: queryParameter,\n" ++
      ((if operation.body.isSome then "    body: body,\n" else "") ++ "  \x7d;\n\x7d\n") := rfl

/-- An operation file with the lines of the type of its path parameter and the pieces of its path:
the type stands directly behind the imports, the path between the method and the end. -/
def HoldsPath (settings : Settings) (operation : Api.Operation) (lines pieces : List String)
    (content : String) : Prop :=
  ∃ between, content = importLines settings operation ++
    ("\nexport type " ++ typeStem operation ++ "PathParameter = " ++ braced 0 lines ++ ";\n" ++
      (between ++ ("  return \x7b\n    method: \"" ++ Text.upperString operation.method.name ++
        "\",\n    path: " ++ ("\x60" ++ String.join pieces ++ "\x60") ++ requestEnd operation)))

/-- The request of an operation ends with its path. -/
theorem joined_requestParts (convention : Name.Convention) (operation : Api.Operation) :
    joined (requestParts convention operation) =
      "  return \x7b\n    method: \"" ++ Text.upperString operation.method.name ++
        "\",\n    path: " ++ ("\x60" ++
          String.join ((pathParts operation.path.toList).map (piece convention "pathParameter")) ++
          "\x60") ++ requestEnd operation := by
  simp only [requestParts, requestEnd_eq, joined_cons, joined_nil, Fragment.text, pathLiteral_eq,
    String.append_assoc, String.append_empty]

/-- The outline of an operation has the lines of its path parameters in the first of its types. -/
theorem holdsPath_outline {outline : Outline}
    (outlined : operationOutline settings.naming settings.definitionDir operation = .ok outline) :
    ∃ lines, List.Forall₂ (Declares settings.naming) operation.pathParameters lines ∧
      HoldsPath settings operation lines
        ((pathParts operation.path.toList).map (piece settings.naming "pathParameter"))
        outline.text := by
  obtain ⟨path, pathParts_eq, outlined⟩ := bind_eq_ok.mp outlined
  obtain ⟨query, _, outlined⟩ := bind_eq_ok.mp outlined
  obtain ⟨body, _, outlined⟩ := bind_eq_ok.mp outlined
  obtain ⟨response, _, outlined⟩ := bind_eq_ok.mp outlined
  have written : expression settings.naming "any" 0 operation.pathNode = .ok (joined path) := by
    rw [← joined_fragments, pathParts_eq]
    rfl
  obtain ⟨lines, declared, type⟩ := expression_object_eq_ok.mp written
  have function : joined (functionParts settings.naming operation) =
      joined (.plain "\n" :: (summaryParts operation.summary ++ headerParts operation)) ++
        joined (requestParts settings.naming operation) := by
    rw [← joined_append, functionParts, List.cons_append, List.append_assoc]
  refine ⟨lines, declared, ?_⟩
  rw [← Except.ok.inj outlined]
  refine ⟨String.join ((⟨typeStem operation ++ "QueryParameter", query⟩ ::
    ((body.map fun parts => Export.mk (typeStem operation ++ "BodyParameter") parts).toList ++
      [⟨typeStem operation ++ "Response", response⟩])).map fun entry => "\n" ++ entry.line) ++
    joined (.plain "\n" :: (summaryParts operation.summary ++ headerParts operation)), ?_⟩
  rw [Outline.text, function, joined_requestParts]
  simp only [importLines, Outline.gap, List.isEmpty_cons, Bool.false_eq_true, if_false,
    List.cons_append, List.nil_append, List.map_cons, String.join_cons, line_export, type,
    String.append_assoc]
  rfl

/-! ## Placeholders -/

/-- An operation file that reads each placeholder by the key under which it declares the parameter.
`parts` are the parts of the path, `lines` the lines of the type and `pieces` the pieces of the path
in the file. -/
structure ReadsDeclared (document : Value) (settings : Settings) (operation : Api.Operation)
    (content : String) (parts : List PathPart) (lines pieces : List String) : Prop where
  /-- The path is divided into static text and placeholders. -/
  divided : Divided parts ∧ parts.flatMap PathPart.source = operation.path.toList
  /-- The file has the lines and the pieces. -/
  content : HoldsPath settings operation lines pieces content
  /-- Each parameter has its line. -/
  declared : List.Forall₂ (Declares settings.naming) operation.pathParameters lines
  /-- Each part has its piece. -/
  printed : pieces = parts.map (piece settings.naming "pathParameter")
  /-- The piece of a placeholder whose name is declared reads the key of the line that declares it,
  in the form that it has there. -/
  agree : ∀ candidate, Api.Extracts document candidate operation →
    ∀ (position : Nat) (name : String), parts[position]? = some (.placeholder name.toList) →
      candidate.DeclaresIn .path name →
      ∃ (row : Nat) (node : TypeNode) (type : String) (form : KeyForm),
        operation.pathParameters[row]? = some (name, node) ∧
        form = KeyForm.ofKey (settings.naming.apply name) ∧
        lines[row]? =
          some ("  " ++ form.declared ++ optionalMark node.required ++ ": " ++ type ++ ";") ∧
        pieces[position]? = some ("$\x7b" ++ form.access "pathParameter" ++ "\x7d")

/-- The file of an operation reads what it declares. -/
theorem readsDeclared_outline (document : Value) {outline : Outline}
    (outlined : operationOutline settings.naming settings.definitionDir operation = .ok outline) :
    ∃ parts lines pieces,
      ReadsDeclared document settings operation outline.text parts lines pieces := by
  obtain ⟨lines, declared, content⟩ := holdsPath_outline outlined
  refine ⟨pathParts operation.path.toList, lines, _,
    ⟨divided_pathParts _, source_pathParts _⟩, content, declared, rfl, ?_⟩
  intro candidate extracts position name placed declares
  obtain ⟨row, found⟩ := List.mem_iff_getElem?.mp (extracts.mem_pathParameters.mpr declares)
  rw [List.getElem?_map, Option.map_eq_some_iff] at found
  obtain ⟨⟨_, node⟩, listed, rfl⟩ := found
  obtain ⟨line, written, type, _, rfl⟩ := getElem?_of_forall₂ declared listed
  refine ⟨row, node, type, _, listed, rfl, written, ?_⟩
  rw [List.getElem?_map, placed, Option.map_some, piece, String.ofList_toList]

/-- Every operation of a document, under every naming convention, has a file that reads from its
path parameter what it declares there. -/
theorem files_read_declared {document : Value} {list : List File} (bundled : Bundled settings)
    (extracted : (Api.extract document).result = .ok spec)
    (rendered : (files settings root spec).result = .ok list) :
    ∃ definitions operations,
      list = ⟨root.child requestFileName, requestSource⟩ :: definitions ++ operations ∧
        definitions.length = spec.definitions.length ∧
        List.Forall₂ (fun operation file =>
          (∃ candidate, Api.Extracts document candidate operation) ∧
            file.path = operationPlace settings root operation ∧
            ∃ parts lines pieces,
              ReadsDeclared document settings operation file.content parts lines pieces)
          spec.operations operations := by
  obtain ⟨definitions, operations, definitionFiles, operationFiles, list_eq⟩ :=
    (files_bundled_eq_ok bundled).mp rendered
  refine ⟨definitions, operations, list_eq, definitionFiles.length_eq.symm, ?_⟩
  refine (List.forall₂_and_left _ _).mpr
    ⟨fun operation member => Api.exists_extracts extracted member, ?_⟩
  refine operationFiles.imp fun operation file made => ?_
  obtain ⟨outline, outlined, rfl, _⟩ := made
  dsimp only
  exact ⟨rfl, readsDeclared_outline document outlined⟩

/-- A document with a path whose parameters have names that are bare, that are quoted, and that only
become bare as they are spelled. -/
def roomDocument : Value :=
  .map [(.text "swagger", .text "2.0"),
    (.text "paths", .map [(.text "/rooms/\x7broom_id\x7d/\x7bbed-side\x7d/$\x7bextra\x7d", .map
      [(.text "get", .map [(.text "operationId", .text "getRoom"),
        (.text "parameters", .list
          [.map [(.text "in", .text "path"), (.text "name", .text "bed-side"),
            (.text "type", .text "string"), (.text "required", .bool true)],
          .map [(.text "in", .text "path"), (.text "name", .text "room_id"),
            (.text "type", .text "integer")]])])])])]

/-- The interface that it describes. -/
def roomSpec : Api.Spec where
  formatVersion := "2.0"
  info := ⟨"Untitled API", "0.0.0", none⟩
  definitions := []
  operations := [⟨"getRoom", "/rooms/\x7broom_id\x7d/\x7bbed-side\x7d/$\x7bextra\x7d", .get, none,
    .empty false,
    [("bed-side", .scalar true .string none), ("room_id", .scalar false .number none)], [], none⟩]

/-- The settings that its file is made with. -/
def roomSettings : Settings := { Settings.standard with naming := .camel }

theorem roomDocument_read_declared : ∃ list, Bundled roomSettings ∧
    (Api.extract roomDocument).result = .ok roomSpec ∧
    (files roomSettings ⟨"", []⟩ roomSpec).result = .ok list ∧
    ∃ definitions operations,
      list = ⟨Path.child ⟨"", []⟩ requestFileName, requestSource⟩ :: definitions ++ operations ∧
        definitions.length = roomSpec.definitions.length ∧
        List.Forall₂ (fun operation file =>
          (∃ candidate, Api.Extracts roomDocument candidate operation) ∧
            file.path = operationPlace roomSettings ⟨"", []⟩ operation ∧
            ∃ parts lines pieces,
              ReadsDeclared roomDocument roomSettings operation file.content parts lines pieces)
          roomSpec.operations operations := by
  have bundled : Bundled roomSettings := ⟨rfl, rfl⟩
  have extracted : (Api.extract roomDocument).result = .ok roomSpec := rfl
  have operations : List.Forall₂ (OperationFile roomSettings ⟨"", []⟩ roomSpec)
      roomSpec.operations _ := .cons ⟨_, rfl, rfl, by decide⟩ .nil
  have rendered := (files_bundled_eq_ok bundled).mpr ⟨[], _, .nil, operations, rfl⟩
  exact ⟨_, bundled, extracted, rendered, files_read_declared bundled extracted rendered⟩

end ClientGen.Client
