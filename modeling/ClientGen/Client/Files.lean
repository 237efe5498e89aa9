import ClientGen.Api.Spec
import ClientGen.Client.Bundle
import ClientGen.Client.Settings
import ClientGen.FileTree.Replacement
import ClientGen.Log
import ClientGen.Path

/-!
# Files of a client

The files that are generated for an interface: one that all requests refer to, one for each
definition and one for each operation, in document order. A type may only refer to definitions of
the interface.
-/

namespace ClientGen.Client

open Template

/-- A generated file. -/
structure File where
  /-- Where it goes. -/
  path : Path
  /-- What it holds. -/
  content : String
  deriving DecidableEq, Repr

/-! ## References -/

/-- The names that nodes refer to, in order of first mention; all of them have to be known. -/
def checkedReferences (owner : String) (known : List String) (nodes : List TypeNode) :
    Except Problem (List String) :=
  let names := nodes.flatMap TypeNode.references
  match names.find? fun name => !known.contains name with
  | some name => .error (Failure.unresolvedReference name owner)
  | none => .ok (TypeNode.addNames [] names)

/-! ## Templates -/

/-- The template of a file kind: the bundled one, or the one that takes its place. -/
def loadTemplate (name bundled : String) (override : Option String) : Except Problem Template :=
  (compileSource (override.getD bundled)).mapError fun problem =>
    match problem with
    | .failed detail => Failure.invalidTemplate name detail
    | .fault fault => fault

/-- What a template prints for a definition or an operation. -/
def printFor (owner : String) (convention : Name.Convention) (template : Template)
    (bindings : Run (List (String × Datum))) : Except Problem String :=
  ((engine convention).render bindings template).mapError fun problem =>
    match problem with
    | .failed detail => Failure.templateFailed owner detail
    | .fault fault => fault

/-! ## Single files -/

/-- The name of the file of a definition or an operation. -/
def fileName (name : String) : String := TypeScript.identifier name ++ ".ts"

/-- The names that the file of a definition imports: all but its own. -/
def definitionImports (definition : Api.Definition) (references : List String) : List String :=
  (references.filter (· ≠ definition.name)).map TypeScript.identifier

/-- The variables of a definition file. -/
def definitionVariables (definition : Api.Definition) (references : List String) :
    Run (List (String × Datum)) := do
  pure [("name", .text definition.name),
    ("type_name", .text (TypeScript.identifier definition.name)),
    ("schema", ← Run.newNode definition.schema),
    ("imports", ← Run.newTexts (definitionImports definition references))]

/-- The text of a definition file. -/
def definitionText (settings : Settings) (template : Template) (known : List String)
    (definition : Api.Definition) : Except Problem String := do
  let references ← checkedReferences definition.name known [definition.schema]
  printFor definition.name settings.naming template (definitionVariables definition references)

/-- The node of a body that may be missing. -/
def bodyDatum : Option TypeNode → Run Datum
  | some body => Run.newNode body
  | none => pure .none

/-- The variables of an operation file. -/
def operationVariables (settings : Settings) (operation : Api.Operation)
    (references : List String) : Run (List (String × Datum)) := do
  pure [("name", .text (TypeScript.identifier operation.name)),
    ("type_name", .text (TypeScript.identifier (Name.pascal operation.name))),
    ("summary", Datum.ofOptional operation.summary),
    ("method", .text (Text.upperString operation.method.name)),
    ("path", .text operation.path),
    ("path_parameter", ← Run.newNode operation.pathNode),
    ("query_parameter", ← Run.newNode operation.queryNode),
    ("body_parameter", ← bodyDatum operation.body),
    ("response", ← Run.newNode operation.response),
    ("imports", ← Run.newTexts (references.map TypeScript.identifier)),
    ("definition_dir", .text settings.definitionDir)]

/-- The text of an operation file. -/
def operationText (settings : Settings) (template : Template) (known : List String)
    (operation : Api.Operation) : Except Problem String := do
  let references ← checkedReferences operation.name known operation.nodes
  printFor operation.name settings.naming template
    (operationVariables settings operation references)

/-! ## All files -/

/-- The name of the file that all requests refer to. -/
def requestFileName : String := "APIRequest.ts"

/-- The owner of that file in messages. -/
def requestOwner : String := "APIRequest"

/-- The record about an operation whose file takes the place of an earlier one. -/
def overwriteMessage (operation : Api.Operation) : String :=
  "Operation name " ++ operation.name ++ " is used more than once; " ++
    Text.upperString operation.method.name ++ " " ++ operation.path ++ " overwrites it"

/-- Leave a record if an operation takes the file name of an earlier one. -/
def noteOverwrite (earlier : List String) (operation : Api.Operation) : Logged Unit :=
  if earlier.contains (fileName operation.name) then
    Logged.record .warning (overwriteMessage operation)
  else Logged.pure ()

/-- The files of operations; the names of earlier operation files are known. -/
def operationFiles (settings : Settings) (directory : Path) (template : Template)
    (known : List String) : (earlier : List String) → List Api.Operation → Logged (List File)
  | _, [] => Logged.pure []
  | earlier, operation :: rest => do
      noteOverwrite earlier operation
      let text ← Logged.ofResult (operationText settings template known operation)
      let name := fileName operation.name
      let files ← operationFiles settings directory template known (name :: earlier) rest
      pure (⟨directory.child name, text⟩ :: files)

/-- The file of a definition. -/
def definitionFile (settings : Settings) (directory : Path) (template : Template)
    (known : List String) (definition : Api.Definition) : Except Problem File := do
  let text ← definitionText settings template known definition
  .ok ⟨directory.child (fileName definition.name), text⟩

/-- The file that all requests refer to. -/
def requestFile (settings : Settings) (root : Path) : Except Problem File := do
  let template ← loadTemplate requestTemplateName requestSource none
  let text ← printFor requestOwner settings.naming template (pure [])
  .ok ⟨root.child requestFileName, text⟩

/-- The files of a client below a directory. Both templates are loaded before anything is
rendered. -/
def files (settings : Settings) (root : Path) (spec : Api.Spec) : Logged (List File) := do
  let definitionTemplate ← Logged.ofResult
    (loadTemplate definitionTemplateName definitionSource settings.definitionTemplate)
  let operationTemplate ← Logged.ofResult
    (loadTemplate operationTemplateName operationSource settings.operationTemplate)
  let request ← Logged.ofResult (requestFile settings root)
  let known := spec.definitions.map (·.name)
  let definitions ← Logged.ofResult (spec.definitions.mapM
    (definitionFile settings (root.child settings.definitionDir) definitionTemplate known))
  let operations ← operationFiles settings (root.child settings.operationDir) operationTemplate
    known [] spec.operations
  pure (request :: definitions ++ operations)

end ClientGen.Client

/-!
## Writing the files of a client

Files are written one after the other, each announced by its absolute path beforehand. The first
obstacle ends the writing; the files written before it stay.
-/

namespace ClientGen.Client

/-- The outcome of writing files. -/
structure Written where
  /-- The tree after the writing. -/
  tree : FileTree
  /-- The targets that were announced, in order. -/
  announced : List Path
  /-- The targets of all files, unless one could not be written. -/
  result : Except Problem (List Path)

/-- The target of a path from a directory: absolute, without double points. -/
def target (directory path : Path) : Path := (directory.append path).normal

/-- The octets of a file. -/
def File.octets (file : File) : List UInt8 := Text.Utf8.encode file.content.toList

/-- The problem of a target that cannot be written. -/
def unwritable (target : Path) : FileTree.Obstacle → Problem
  | .refusal refusal => Failure.unwritable target.toText refusal.message
  | .fault fault => fault

/-- Write files below a directory, which is an absolute path. A path with a null character has no
target. -/
def writeFilesUnder (directory : Path) :
    FileTree.Conditions → FileTree → List File → Written
  | _, tree, [] => ⟨tree, [], .ok []⟩
  | conditions, tree, file :: rest =>
      if FileTree.hasNull (directory.append file.path) then ⟨tree, [], .error Fault.badValue⟩
      else
        let goal := target directory file.path
        match tree.replace conditions goal.parts file.octets with
        | ⟨changed, some obstacle⟩ => ⟨changed, [goal], .error (unwritable goal obstacle)⟩
        | ⟨changed, none⟩ =>
            let others := writeFilesUnder directory conditions.later changed rest
            ⟨others.tree, goal :: others.announced, others.result.map (goal :: ·)⟩

/-- Write files below a directory under the usual conditions. -/
def writeFiles (directory : Path) (tree : FileTree) (files : List File) : Written :=
  writeFilesUnder directory .ordinary tree files

end ClientGen.Client
