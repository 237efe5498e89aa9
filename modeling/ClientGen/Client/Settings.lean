import ClientGen.Failure
import ClientGen.Name.Case

/-!
# Settings of a rendering

What can be chosen for the generated client: how properties are named, where files go, and the
templates that take the place of the bundled ones.
-/

namespace ClientGen.Client

/-- The settings of a rendering. -/
structure Settings where
  /-- How property and parameter names are spelled. -/
  naming : Name.Convention
  /-- The directory of definition files. -/
  definitionDir : String
  /-- The directory of operation files. -/
  operationDir : String
  /-- The source of a template for definitions. -/
  definitionTemplate : Option String
  /-- The source of a template for operations. -/
  operationTemplate : Option String
  deriving DecidableEq, Repr

namespace Settings

/-- The settings without any choice. -/
def standard : Settings := ⟨.preserve, "models", "requests", none, none⟩

/-! ## Fields -/

/-- A text field, or its standard value where it is not set. -/
def textField (name standard : String) (fields : Value) : Option String :=
  match fields.field? name with
  | none => some standard
  | some (.text s) => some s
  | some _ => none

/-- A text field that may be missing or null. -/
def optionalField (name : String) (fields : Value) : Option (Option String) :=
  match fields.field? name with
  | none | some .null => some none
  | some (.text s) => some (some s)
  | some _ => none

/-- The field of a naming convention, by its exact name. -/
def namingField (name : String) (fields : Value) : Option Name.Convention :=
  match fields.field? name with
  | none => some .preserve
  | some (.text s) => Name.Convention.ofName? s
  | some _ => none

/-- The settings that fields describe; none if a field has a value that it cannot have. -/
def ofFields? (fields : Value) : Option Settings := do
  some {
    naming := ← namingField "naming" fields
    definitionDir := ← textField "definition_dir" "models" fields
    operationDir := ← textField "operation_dir" "requests" fields
    definitionTemplate := ← optionalField "definition_template" fields
    operationTemplate := ← optionalField "operation_template" fields }

end Settings

end ClientGen.Client
