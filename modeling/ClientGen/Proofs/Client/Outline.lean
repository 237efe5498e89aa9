import ClientGen.Client.Files
import ClientGen.Proofs.Schema.Properties
import ClientGen.Proofs.TypeScript.Fragment

/-!
# Outlines of generated files

The types that a generated file imports and exports, and the function that it declares, before they
are written down. Every type that a file refers to stands in its outline as a fragment of its own.
-/

namespace ClientGen.Client

open TypeScript TypeScript.Fragment

/-- The import of a type. -/
structure Import where
  /-- The name of the type. -/
  name : String
  /-- The module that it comes from. -/
  source : String
  deriving DecidableEq, Repr

/-- The line of an import. -/
def Import.line (entry : Import) : String :=
  "import \x7b " ++ entry.name ++ " \x7d from \"" ++ entry.source ++ "\";\n"

theorem line_import (name source : String) :
    Import.line ⟨name, source⟩ =
      "import \x7b " ++ name ++ " \x7d from \"" ++ source ++ "\";\n" := rfl

/-- A type that is exported. -/
structure Export where
  /-- The name of the type. -/
  name : String
  /-- The fragments of the type itself. -/
  parts : List Fragment
  deriving DecidableEq, Repr

/-- The line of an exported type. -/
def Export.line (entry : Export) : String :=
  "export type " ++ entry.name ++ " = " ++ joined entry.parts ++ ";\n"

theorem line_export (name : String) (parts : List Fragment) :
    Export.line ⟨name, parts⟩ = "export type " ++ name ++ " = " ++ joined parts ++ ";\n" := rfl

/-- A generated file. -/
structure Outline where
  /-- The types that the file imports. -/
  imports : List Import
  /-- The types that the file exports. -/
  exports : List Export
  /-- The fragments of the function after them; none in the file of a definition. -/
  function : List Fragment
  deriving DecidableEq, Repr

namespace Outline

/-- The line between imports and exports, if there are imports. -/
def gap (outline : Outline) : String := if outline.imports.isEmpty then "" else "\n"

/-- What the file holds. -/
def text (outline : Outline) : String :=
  String.join (outline.imports.map Import.line) ++
    (String.join (outline.exports.map fun entry => outline.gap ++ entry.line) ++
      joined outline.function)

/-- The names that the file imports. -/
def imported (outline : Outline) : List String := outline.imports.map (·.name)

/-- The names of the types that the file exports. -/
def exported (outline : Outline) : List String := outline.exports.map (·.name)

/-- The names of types that the file introduces. -/
def introduced (outline : Outline) : List String := outline.imported ++ outline.exported

/-- The names of types that the exported types refer to. -/
def mentioned (outline : Outline) : List String :=
  outline.exports.flatMap fun entry => typeNames entry.parts

/-- The names of all types that the file refers to. -/
def used (outline : Outline) : List String := outline.mentioned ++ typeNames outline.function

end Outline

/-! ## References -/

/-- References that are all known are handed on, each of them once. -/
theorem checkedReferences_eq_ok {owner : String} {known : List String} {nodes : List TypeNode}
    {references : List String} :
    checkedReferences owner known nodes = .ok references ↔
      references = TypeNode.referencesOfAll nodes ∧
        ∀ name ∈ TypeNode.referencesOfAll nodes, name ∈ known := by
  have same : ∀ name, name ∈ TypeNode.referencesOfAll nodes ↔
      name ∈ nodes.flatMap TypeNode.references := by
    intro name
    rw [TypeNode.referencesOfAll, TypeNode.mem_addNames]
    simp only [List.not_mem_nil, false_or]
  simp only [same]
  rw [checkedReferences]
  cases found : (nodes.flatMap TypeNode.references).find? fun name => !known.contains name with
  | some name =>
      have unknown : known.contains name = false := by simpa using List.find?_some found
      constructor
      · intro failed
        cases failed
      · rintro ⟨_, all⟩
        have member := all name (List.mem_of_find?_eq_some found)
        rw [List.contains_iff_mem.mpr member] at unknown
        cases unknown
  | none =>
      have all : ∀ name ∈ nodes.flatMap TypeNode.references, name ∈ known := by
        intro name member
        have known := List.find?_eq_none.mp found name member
        simpa using known
      constructor
      · intro checked
        exact ⟨(Except.ok.inj checked).symm, all⟩
      · rintro ⟨rfl, _⟩
        rfl

/-! ## Definition files -/

/-- The imports of a definition file. -/
def definitionImportsOf (definition : Api.Definition) : List Import :=
  (definitionImports definition (TypeNode.referencesOfAll [definition.schema])).map fun name =>
    ⟨name, "./" ++ name⟩

/-- The outline of a definition file. -/
def definitionOutline (convention : Name.Convention) (definition : Api.Definition) :
    Except Fault Outline := do
  let parts ← fragments convention "any" 0 definition.schema
  .ok ⟨definitionImportsOf definition, [⟨identifier definition.name, parts⟩], []⟩

/-! ## Operation files -/

/-- The stem of the names of the types of an operation. -/
def typeStem (operation : Api.Operation) : String := identifier (Name.pascal operation.name)

/-- The import that all operation files start with. -/
def requestImport : Import := ⟨requestOwner, "../" ++ requestOwner⟩

/-- The definition imports of an operation file. -/
def operationImportsOf (directory : String) (operation : Api.Operation) : List Import :=
  (TypeNode.referencesOfAll operation.nodes).map fun name =>
    ⟨identifier name, "../" ++ directory ++ "/" ++ identifier name⟩

/-- The comment for a summary, if there is one. -/
def summaryParts : Option String → List Fragment
  | none => []
  | some text => if text.isEmpty then [] else [.plain ("/** " ++ text ++ " */\n")]

/-- The parameters of the function of an operation after the first one. -/
def parameterParts (operation : Api.Operation) : List Fragment :=
  if operation.body.isSome then
    [.plain "  queryParameter: ", .typeName (typeStem operation ++ "QueryParameter"),
      .plain ",\n  body: ", .typeName (typeStem operation ++ "BodyParameter"), .plain "\n"]
  else
    [.plain "  queryParameter: ", .typeName (typeStem operation ++ "QueryParameter"), .plain "\n"]

/-- The start of the function of an operation, up to its result type. -/
def headerParts (operation : Api.Operation) : List Fragment :=
  [.plain ("export function " ++ identifier operation.name ++ "(\n  pathParameter: "),
    .typeName (typeStem operation ++ "PathParameter"), .plain ",\n"] ++
  (parameterParts operation ++
  [.plain "): ", .typeName requestOwner, .plain "<", .typeName (typeStem operation ++ "Response"),
    .plain "> \x7b\n"])

/-- The body of the function of an operation. -/
def requestParts (convention : Name.Convention) (operation : Api.Operation) : List Fragment :=
  [.plain "  return \x7b\n    method: \"", .plain (Text.upperString operation.method.name),
    .plain "\",\n    path: ", .plain (pathLiteral operation.path "pathParameter" convention),
    .plain ",\n    query: queryParameter,\n",
    .plain (if operation.body.isSome then "    body: body,\n" else ""), .plain "  \x7d;\n\x7d\n"]

/-- The fragments of the function of an operation. -/
def functionParts (convention : Name.Convention) (operation : Api.Operation) : List Fragment :=
  .plain "\n" :: (summaryParts operation.summary ++
    (headerParts operation ++ requestParts convention operation))

/-- The fragments of the type of a body that may be missing. -/
def bodyParts (convention : Name.Convention) :
    Option TypeNode → Except Fault (Option (List Fragment))
  | none => .ok none
  | some node => do .ok (some (← fragments convention "any" 0 node))

/-- The outline of an operation file. -/
def operationOutline (convention : Name.Convention) (directory : String)
    (operation : Api.Operation) : Except Fault Outline := do
  let stem := typeStem operation
  let path ← fragments convention "any" 0 operation.pathNode
  let query ← fragments convention "any" 0 operation.queryNode
  let body ← bodyParts convention operation.body
  let response ← fragments convention "void" 0 operation.response
  .ok ⟨requestImport :: operationImportsOf directory operation,
    [⟨stem ++ "PathParameter", path⟩, ⟨stem ++ "QueryParameter", query⟩] ++
      (body.map fun parts => ⟨stem ++ "BodyParameter", parts⟩).toList ++
      [⟨stem ++ "Response", response⟩],
    functionParts convention operation⟩

end ClientGen.Client
