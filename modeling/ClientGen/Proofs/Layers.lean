import ClientGen.Options
import ClientGen.Proofs.Result
import ClientGen.Proofs.Value.Entries

/-!
# Layers of options

Each option has the value of the highest layer that sets it: the command line, unless it gives null,
then the environment, unless it gives an empty text, then the project file, whatever it gives, and
last the standard value. The options are those values if each of them is valid for its option, and
otherwise a failure. What a higher layer hides makes no difference, valid or not.
-/

namespace ClientGen

namespace Options

variable {host : Host} {commandLine : List (Value × Value)} {named : Option Path}
  {project : Option (List (Value × Value))}

/-- The options without any choice. -/
def standard : Options := ⟨".", "models", "requests", .preserve, none, none⟩

/-- The options that can be set. -/
def names : List String :=
  ["dist", "definition_dir", "operation_dir", "naming", "definition_template",
    "operation_template"]

/-- A text, null, or neither. -/
def optionalText? : Value → Option (Option String)
  | .null => some none
  | .text s => some (some s)
  | _ => none

/-- The options with given values. -/
def ofValues (value : String → Value) : Except Problem Options := do
  let dist ← checked "dist" (value "dist").text?
  let definitionDir ← checked "definition_dir" (value "definition_dir").text?
  let operationDir ← checked "operation_dir" (value "operation_dir").text?
  let naming ← checked "naming" ((value "naming").text?.bind Name.Convention.ofName?)
  let definitionTemplate ←
    checked "definition_template" (optionalText? (value "definition_template"))
  let operationTemplate ← checked "operation_template" (optionalText? (value "operation_template"))
  .ok ⟨dist, definitionDir, operationDir, naming, definitionTemplate, operationTemplate⟩

variable {octets : List UInt8} {text : List Char} {entries : List (Value × Value)}

/-- The place of the project file. -/
def projectPath (host : Host) (named : Option Path) : Path :=
  named.getD (host.directory.child projectFileName)

end Options

end ClientGen
