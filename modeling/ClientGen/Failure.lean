import ClientGen.Json.Reader

/-!
# Failures and faults

A failure is a condition that the program reports in its own words and with its own exit code. A
fault is any other condition that ends a computation; the command line answers it with a crash log.
-/

namespace ClientGen

/-! ## Kinds of failures -/

/-- The families of failures. -/
inductive FailureKind where
  /-- Any failure. -/
  | general
  /-- The command line cannot be carried out as it stands. -/
  | invalidUsage
  /-- The document cannot be loaded or read. -/
  | unreadableSpec
  /-- The document declares another version. -/
  | unsupportedVersion
  /-- The document lacks a part that it must have. -/
  | malformedDocument
  /-- The files cannot be rendered. -/
  | render
  /-- A type refers to an unknown definition. -/
  | unresolvedReference
  /-- A file cannot be written. -/
  | output
  /-- The options are invalid. -/
  | config
  deriving DecidableEq, Repr, Inhabited

namespace FailureKind

/-- The family that a family belongs to. -/
def parent? : FailureKind → Option FailureKind
  | .general => none
  | .unsupportedVersion | .malformedDocument => some .unreadableSpec
  | .unresolvedReference => some .render
  | .invalidUsage | .unreadableSpec | .render | .output | .config => some .general

/-- A family and all that it belongs to, nearest first. -/
def ancestry : FailureKind → List FailureKind
  | .general => [.general]
  | .unsupportedVersion => [.unsupportedVersion, .unreadableSpec, .general]
  | .malformedDocument => [.malformedDocument, .unreadableSpec, .general]
  | .unresolvedReference => [.unresolvedReference, .render, .general]
  | kind => [kind, .general]

/-- The exit code of a family. -/
def exitCode : FailureKind → Nat
  | .general | .config => 1
  | .invalidUsage => 2
  | .unreadableSpec | .unsupportedVersion | .malformedDocument => 7
  | .render | .unresolvedReference => 8
  | .output => 9

end FailureKind

/-! ## Failures -/

/-- A condition that the program reports. -/
inductive Failure where
  /-- A message of a family, with an exit code of its own or the family's. -/
  | stated (kind : FailureKind) (message : String) (exitCode? : Option Int)
  /-- The document was to come from a terminal. -/
  | terminalInput
  /-- Standard input cannot be read. -/
  | unreadableInput (detail : String)
  /-- Standard input has nothing but white space. -/
  | emptyInput
  /-- The server answered with a status that is not a success. -/
  | httpStatus (status : Int) (url : String)
  /-- The server cannot be reached. -/
  | unreachable (url detail : String)
  /-- There is no such document file. -/
  | missingSpec (path : String)
  /-- The document file cannot be read. -/
  | unreadableFile (path detail : String)
  /-- The document file has nothing but white space. -/
  | emptySpec (path : String)
  /-- The text had to be JSON and is not. -/
  | invalidJson (detail : String)
  /-- The text is not YAML, nor JSON where that was tried. -/
  | unparsable (jsonDetail : Option String) (yamlDetail : String)
  /-- The text denotes something other than a mapping. -/
  | notAMapping (found : String)
  /-- The document is of the successor format. -/
  | openApi (version : String)
  /-- The document declares no version. -/
  | missingVersion
  /-- The document declares another version. -/
  | wrongVersion (version : String)
  /-- The document has no paths. -/
  | missingPaths
  /-- The paths of the document are no mapping. -/
  | invalidPaths (found : String)
  /-- A definition or operation refers to an unknown definition. -/
  | unresolvedReference (name owner : String)
  /-- A template cannot be compiled. -/
  | invalidTemplate (name detail : String)
  /-- A template cannot be rendered for a definition or operation. -/
  | templateFailed (owner detail : String)
  /-- A file cannot be written. -/
  | unwritable (path detail : String)
  /-- There is no such configuration file. -/
  | missingConfig (path : String)
  /-- The configuration file is not JSON. -/
  | invalidConfig (path detail : String)
  /-- The configuration file is JSON but not an object. -/
  | configNotObject (path : String)
  /-- An option has a value that it cannot have. -/
  | invalidOptions (detail : String)
  /-- There is no such template file. -/
  | missingTemplate (path : String)
  /-- The template file cannot be read. -/
  | unreadableTemplate (path detail : String)
  deriving DecidableEq, Repr

namespace Failure

/-- The family of a failure. -/
def kind : Failure → FailureKind
  | .stated kind _ _ => kind
  | .terminalInput => .invalidUsage
  | .unreadableInput _ | .emptyInput | .httpStatus .. | .unreachable .. | .missingSpec _
  | .unreadableFile .. | .emptySpec _ | .invalidJson _ | .unparsable ..
  | .notAMapping _ => .unreadableSpec
  | .openApi _ | .missingVersion | .wrongVersion _ => .unsupportedVersion
  | .missingPaths | .invalidPaths _ => .malformedDocument
  | .unresolvedReference .. => .unresolvedReference
  | .invalidTemplate .. | .templateFailed .. => .render
  | .unwritable .. => .output
  | .missingConfig _ | .invalidConfig .. | .configNotObject _ | .invalidOptions _
  | .missingTemplate _ | .unreadableTemplate .. => .config

/-- The version of the format that is read. -/
def supportedVersion : String := "2.0"

/-- The wording of a failure. -/
def message : Failure → String
  | .stated _ message _ => message
  | .terminalInput => "Reading the spec from '-' needs a document piped on stdin"
  | .unreadableInput detail => "Failed to read from stdin: " ++ detail
  | .emptyInput => "No input received from stdin"
  | .httpStatus status url => "HTTP " ++ toString status ++ " fetching spec from " ++ url
  | .unreachable url detail => "Failed to fetch spec from " ++ url ++ ": " ++ detail
  | .missingSpec path => "Spec file not found: " ++ path
  | .unreadableFile path detail => "Failed to read spec file " ++ path ++ ": " ++ detail
  | .emptySpec path => "Spec file is empty: " ++ path
  | .invalidJson detail => "Invalid JSON: " ++ detail
  | .unparsable jsonDetail yamlDetail =>
      "Failed to parse spec as JSON or YAML" ++
        (jsonDetail.map ("\n  JSON error: " ++ ·)).getD "" ++ "\n  YAML error: " ++ yamlDetail
  | .notAMapping found => "Spec must be a JSON/YAML object (got " ++ found ++ ")"
  | .openApi version =>
      "OpenAPI " ++ version ++ " is not supported. Only Swagger " ++ supportedVersion ++
        " is supported."
  | .missingVersion => "Missing 'swagger' field. Is this a Swagger 2.0 document?"
  | .wrongVersion version =>
      "Only " ++ supportedVersion ++ " is supported. Your version: " ++ version
  | .missingPaths => "Swagger document has no 'paths' object"
  | .invalidPaths found => "'paths' must be an object (got " ++ found ++ ")"
  | .unresolvedReference name owner => "Unresolved reference '" ++ name ++ "' in '" ++ owner ++ "'"
  | .invalidTemplate name detail => "Cannot load template " ++ name ++ ": " ++ detail
  | .templateFailed owner detail => "Failed to render '" ++ owner ++ "': " ++ detail
  | .unwritable path detail => "Cannot write " ++ path ++ ": " ++ detail
  | .missingConfig path => "Config file not found: " ++ path
  | .invalidConfig path detail => "Invalid project config at " ++ path ++ ": " ++ detail
  | .configNotObject path => "Project config at " ++ path ++ " must be a JSON object"
  | .invalidOptions detail => "Invalid generate options: " ++ detail
  | .missingTemplate path => "Template file not found: " ++ path
  | .unreadableTemplate path detail => "Cannot read template " ++ path ++ ": " ++ detail

/-- The exit code of a failure. -/
def exitCode : Failure → Int
  | .stated kind _ exitCode? => exitCode?.getD kind.exitCode
  | failure => failure.kind.exitCode

end Failure

/-! ## Faults -/

/-- A condition that the program has no message for. -/
inductive Fault where
  /-- A value of the right kind that is out of range. -/
  | badValue
  /-- A value of the wrong kind. -/
  | badKind
  /-- A value without the asked member. -/
  | missingMember
  /-- A mapping without the asked key. -/
  | missingKey
  /-- A sequence without the asked position. -/
  | missingPosition
  /-- A division by zero. -/
  | divisionByZero
  /-- A number too large for its kind. -/
  | overflow
  /-- Octets that are no text. -/
  | undecodable
  /-- A record field with a value of the wrong kind. -/
  | invalidField
  /-- A path that leads through a file. -/
  | notADirectory
  /-- A file where a directory has to be made. -/
  | alreadyExists
  /-- A directory where a file has to be. -/
  | isADirectory
  /-- Any other refusal of the file system. -/
  | refusedPath
  /-- A computation that does not come to an end. -/
  | endless
  /-- A value that has no serialised form. -/
  | unserializable
  /-- A named fault that someone else raised. -/
  | foreign
  /-- A condition that a computation relies on and that does not hold. -/
  | assertion
  /-- A source whose compiled form is malformed. -/
  | malformed
  /-- A name without a meaning. -/
  | unknownName
  /-- A value that changes while it is gone through. -/
  | changed
  /-- The end of a stream where an item has to be. -/
  | exhausted
  /-- A charset that does not exist. -/
  | unknownCharset
  /-- Characters that a charset does not have. -/
  | unencodable
  /-- Octets of text without the mark that tells their order. -/
  | unmarked
  /-- A file that must not be read. -/
  | denied
  deriving DecidableEq, Repr, Inhabited

/-- The wording of a fault in a crash log. -/
def Fault.message : Fault → String
  | .badValue => "a value is out of range"
  | .badKind => "a value is of the wrong kind"
  | .missingMember => "a value lacks a member"
  | .missingKey => "a mapping lacks a key"
  | .missingPosition => "a sequence lacks a position"
  | .divisionByZero => "division by zero"
  | .overflow => "a number is too large"
  | .undecodable => "octets are no text"
  | .invalidField => "a field has a value of the wrong kind"
  | .notADirectory => "a path leads through a file"
  | .alreadyExists => "a file is in the way of a directory"
  | .isADirectory => "a directory is in the way of a file"
  | .refusedPath => "the file system refused a path"
  | .endless => "a computation came to no end"
  | .unserializable => "a value has no serialised form"
  | .foreign => "a fault from elsewhere"
  | .assertion => "a condition does not hold"
  | .malformed => "a source is malformed"
  | .unknownName => "a name has no meaning"
  | .changed => "a value changed while it was gone through"
  | .exhausted => "a stream has come to its end"
  | .unknownCharset => "a charset does not exist"
  | .unencodable => "a charset lacks a character"
  | .unmarked => "octets lack a mark of their order"
  | .denied => "a file must not be read"

/-- Why a computation has no result. -/
inductive Problem where
  /-- A condition that is reported. -/
  | failure (failure : Failure)
  /-- A condition that ends in a crash log. -/
  | fault (fault : Fault)
  deriving DecidableEq, Repr

instance : Coe Failure Problem := ⟨.failure⟩
instance : Coe Fault Problem := ⟨.fault⟩

end ClientGen
