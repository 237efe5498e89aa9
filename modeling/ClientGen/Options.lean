import ClientGen.Client.Settings
import ClientGen.Document

/-!
# Options

What can be chosen for a run: where the files go, how they are named and which templates make them.
Each option takes its value from the highest layer that sets it: the command line, then the
environment, then the project file, then the standard value. Only the values that win are checked.
-/

namespace ClientGen

/-- The options of a run. -/
structure Options where
  /-- The directory that all files go below. -/
  dist : String
  /-- The directory of definition files. -/
  definitionDir : String
  /-- The directory of operation files. -/
  operationDir : String
  /-- How property and parameter names are spelled. -/
  naming : Name.Convention
  /-- The path of a template for definitions. -/
  definitionTemplate : Option String
  /-- The path of a template for operations. -/
  operationTemplate : Option String
  deriving DecidableEq, Repr

namespace Options

/-! ## The project file -/

/-- The name of the project file. -/
def projectFileName : String := "swagts.json"

/-- The entries of the project file with the given content. -/
def ofContent (path : Path) (octets : List UInt8) : Except Problem (List (Value × Value)) := do
  let text ← (FileTree.textOf octets).mapError Problem.fault
  match Document.readJson text with
  | .value (.map entries) => .ok entries
  | .value _ => .error (Failure.configNotObject path.toText)
  | .invalid detail => .error (Failure.invalidConfig path.toText detail)
  | .unconvertible => .error Fault.badValue

/-- The entries of the project file. A named file has to exist; the one of the working directory
may be missing. -/
def project? (host : Host) (named : Option Path) :
    Except Problem (Option (List (Value × Value))) := do
  let path := named.getD (host.directory.child projectFileName)
  match ← (host.tree.file? host.directory.parts path).mapError Problem.fault with
  | some octets =>
      match host.withheld? path with
      | some detail => .error (Failure.invalidConfig path.toText detail)
      | none => (ofContent path octets).map some
  | none => if named.isSome then .error (Failure.missingConfig path.toText) else .ok none

/-! ## Layers -/

/-- The environment variables and the options that they set. -/
def variableNames : List (String × String) :=
  [("SWAGTS_DIST", "dist"), ("SWAGTS_DEFINITION_DIR", "definition_dir"),
    ("SWAGTS_OPERATION_DIR", "operation_dir"), ("SWAGTS_NAMING", "naming")]

/-- The entries that the environment sets. -/
def ofVariables (host : Host) : List (Value × Value) :=
  variableNames.filterMap fun (name, field) =>
    (host.given? name).map fun value => (.text field, .text value)

/-- The entries of a command line that are not null. -/
def givenEntries (entries : List (Value × Value)) : List (Value × Value) :=
  entries.filter fun entry => entry.2 ≠ .null

/-- Put one layer of entries over another. -/
def overlay (upper lower : List (Value × Value)) : List (Value × Value) :=
  upper.foldl (fun done entry => Value.put entry.1 entry.2 done) lower

/-- The entries of all layers. -/
def merged (project environment commandLine : List (Value × Value)) : List (Value × Value) :=
  overlay (givenEntries commandLine) (overlay environment project)

/-! ## Fields -/

/-- A field, or the report that it has a value it cannot have. -/
def checked {α : Type} (name : String) (field : Option α) : Except Problem α :=
  match field with
  | some value => .ok value
  | none => .error (Failure.invalidOptions name)

/-- The options that fields describe. -/
def ofFields (fields : Value) : Except Problem Options := do
  let dist ← checked "dist" (Client.Settings.textField "dist" "." fields)
  let definitionDir ← checked "definition_dir"
    (Client.Settings.textField "definition_dir" "models" fields)
  let operationDir ← checked "operation_dir"
    (Client.Settings.textField "operation_dir" "requests" fields)
  let naming ← checked "naming" (Client.Settings.namingField "naming" fields)
  let definitionTemplate ← checked "definition_template"
    (Client.Settings.optionalField "definition_template" fields)
  let operationTemplate ← checked "operation_template"
    (Client.Settings.optionalField "operation_template" fields)
  .ok ⟨dist, definitionDir, operationDir, naming, definitionTemplate, operationTemplate⟩

/-- The options of a run: the command line's entries over all that the host sets. -/
def resolve (host : Host) (commandLine : List (Value × Value)) (named : Option Path) :
    Except Problem Options := do
  let project ← project? host named
  ofFields (.map (merged (project.getD []) (ofVariables host) commandLine))

/-- The options as fields. -/
def toFields (options : Options) : Value :=
  .map [(.text "dist", .text options.dist),
    (.text "definition_dir", .text options.definitionDir),
    (.text "operation_dir", .text options.operationDir),
    (.text "naming", .text options.naming.name),
    (.text "definition_template", Value.ofOptional options.definitionTemplate),
    (.text "operation_template", Value.ofOptional options.operationTemplate)]

/-! ## Templates -/

/-- The text of a template file; a leading tilde stands for a home directory. -/
def templateText (host : Host) (text : String) : Except Problem String := do
  match host.expandHome? (Path.ofText text) with
  | none => .error Fault.foreign
  | some path =>
      match ← (host.tree.file? host.directory.parts path).mapError Problem.fault with
      | none => .error (Failure.missingTemplate path.toText)
      | some octets =>
          match host.withheld? path with
          | some detail => .error (Failure.unreadableTemplate path.toText detail)
          | none =>
              let chars ← (FileTree.textOf octets).mapError Problem.fault
              .ok (String.ofList chars)

/-- The text of an optional template file. -/
def optionalTemplate (host : Host) : Option String → Except Problem (Option String)
  | none => .ok none
  | some text => (templateText host text).map some

/-- The settings that options lead to, with the templates read. -/
def settings (host : Host) (options : Options) : Except Problem Client.Settings := do
  let definitionTemplate ← optionalTemplate host options.definitionTemplate
  let operationTemplate ← optionalTemplate host options.operationTemplate
  .ok ⟨options.naming, options.definitionDir, options.operationDir, definitionTemplate,
    operationTemplate⟩

end Options

end ClientGen
