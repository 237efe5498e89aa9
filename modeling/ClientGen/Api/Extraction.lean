import ClientGen.Api.Spec
import ClientGen.Log
import ClientGen.Schema.Mapping
import ClientGen.Value.Display

/-!
# Extraction from a document

A document is accepted when it declares the supported version and its paths are a mapping.
Whatever else is out of place is skipped: entries that are no operations, parameters in other
places, further body parameters. Deprecated operations are left out with a warning.
-/

namespace ClientGen.Api

/-! ## Version and general statements -/

/-- Whether a document mentions a name: a mapping as a key, a sequence as an item, a text as a
part. Nothing else can be asked. -/
def mentions (name : String) : Value → Except Fault Bool
  | .map entries => .ok (Value.fieldOf name entries).isSome
  | .list items => .ok (items.contains (.text name))
  | .text text => .ok (Text.contains name.toList text.toList)
  | _ => .error .badKind

/-- The version that a document declares, which has to be the supported one. Only a mapping
declares anything. -/
def formatVersion (document : Value) : Except Problem String := do
  let isSuccessor ← (mentions "openapi" document).mapError Problem.fault
  let isKnown ← (mentions "swagger" document).mapError Problem.fault
  match document, isSuccessor && !isKnown with
  | .map _, true => do
      let version ← (Value.writtenOr "" (document.field? "openapi")).mapError Problem.fault
      .error (Failure.openApi version)
  | .map _, false =>
      match document.givenField? "swagger" with
      | none => .error Failure.missingVersion
      | some version => do
          let version ← version.written.mapError Problem.fault
          if version = Failure.supportedVersion then .ok version
          else .error (Failure.wrongVersion version)
  | _, true => .error Fault.badKind
  | _, false => .error Fault.missingMember

/-- The paths of a document. -/
def paths (document : Value) : Except Failure (List (Value × Value)) :=
  match document.givenField? "paths" with
  | none => .error .missingPaths
  | some found =>
      match found.entries? with
      | some entries => .ok entries
      | none => .error (.invalidPaths found.kindName)

/-- The general statements, with placeholders for a missing title or version. -/
def info (document : Value) : Except Fault Info := do
  let given := (document.field? "info").getD .null
  let title ← Value.writtenOr "Untitled API" (given.field? "title")
  let version ← Value.writtenOr "0.0.0" (given.field? "version")
  let description ← Value.writtenGiven (given.field? "description")
  .ok { title, version, description }

/-! ## Definitions -/

/-- The definition of one entry. -/
def definition (entry : Value × Value) : Except Fault Definition := do
  let name ← entry.1.written
  .ok ⟨name, ← Schema.map false entry.2⟩

/-- The definitions of a document. -/
def definitions (document : Value) : Except Fault (List Definition) :=
  (((document.field? "definitions").bind Value.entries?).getD []).mapM definition

/-! ## Parameters -/

/-- Where the parameters of an operation are passed. -/
inductive Place where
  /-- In the path. -/
  | path
  /-- In the query. -/
  | query
  /-- In the body. -/
  | body
  deriving DecidableEq, Repr

/-- The place that a parameter names, when it is one that is used. -/
def place? (parameter : Value) : Option Place :=
  match parameter.field? "in" with
  | some (.text "path") => some .path
  | some (.text "query") => some .query
  | some (.text "body") => some .body
  | _ => none

/-- The parameters in a place. -/
def parametersIn (place : Place) (parameters : List Value) : List Value :=
  parameters.filter fun parameter => place? parameter = some place

/-- What a message calls an entry of a parameter list. -/
def parameterLabel (parameter : Value) : String :=
  match parameter with
  | .map _ => ((parameter.field? "name").getD .null).quoted
  | other => other.quoted

/-- The record about an entry that is not used. -/
def ignoredParameter (operation : String) (parameter : Value) : LogRecord :=
  ⟨.debug, "Ignore parameter " ++ parameterLabel parameter ++ " in " ++ operation ++
    ": unsupported location " ++ ((parameter.field? "in").getD .null).quoted⟩

/-- The records about the entries that are not used. -/
def ignoredParameters (operation : String) (parameters : List Value) : List LogRecord :=
  (parameters.filter fun parameter => (place? parameter).isNone).map (ignoredParameter operation)

/-- The name of a parameter, empty when there is none. -/
def parameterName (parameter : Value) : Except Fault String :=
  Value.writtenOr "" (parameter.field? "name")

/-- The property that a parameter gives to the object of its place. -/
def parameterProperty (parameter : Value) : Except Fault (String × TypeNode) := do
  let node ← Schema.map (parameter.flag "required") parameter
  .ok (← parameterName parameter, node)

/-- The properties of parameters; of several with one name the last decides. -/
def parameterProperties (parameters : List Value) : Except Fault (List (String × TypeNode)) := do
  .ok (TypeNode.putProperties [] (← parameters.mapM parameterProperty))

/-- The record about body parameters beyond the first. -/
def extraBodies (operation : String) (parameters : List Value) : List LogRecord :=
  match parameters with
  | first :: _ :: _ =>
      [⟨.warning, "Operation " ++ operation ++ " declares " ++ toString parameters.length ++
        " body parameters; using " ++ ((first.field? "name").getD .null).quoted⟩]
  | _ => []

/-- The shape of the body: the schema of the first body parameter. -/
def bodyNode (parameters : List Value) : Except Fault (Option TypeNode) :=
  match parameters with
  | [] => .ok none
  | first :: _ => do
      .ok (some (← Schema.map (first.flag "required") ((first.field? "schema").getD .null)))

/-! ## Responses -/

/-- The response for a status code, given as text or as a number. -/
def responseFor (code : Nat) (responses : List (Value × Value)) : Option Value :=
  ((Value.fieldOf (toString code) responses).or (Value.lookup (.int code) responses)).map
    Value.opened

/-- The shape of one response. -/
def responseNode (response : Value) : Except Fault TypeNode :=
  match response.givenField? "schema" with
  | some schema => Schema.map false schema
  | none => .ok (.empty false)

/-- The shape of what an operation answers: the first given response of 200 and 201 decides. -/
def response (responses : Value) : Except Fault TypeNode :=
  match responses with
  | .map entries =>
      match Value.given? (responseFor 200 entries) with
      | some given => responseNode given
      | none =>
          match Value.given? (responseFor 201 entries) with
          | some given => responseNode given
          | none => .ok (.empty false)
  | _ => .ok (.empty false)

/-! ## Operations -/

/-- An entry of a path item that is an operation. -/
structure Candidate where
  /-- The key of the path item. -/
  path : Value
  /-- The method. -/
  method : Method
  /-- The operation object. -/
  operation : Value
  deriving DecidableEq, Repr

/-- The method that a key of a path item names, in any letter case. -/
def methodOf (key : Value) : Except Fault (Option Method) := do
  .ok (Method.ofName? (Text.lowerString (← key.written)))

/-- The operation that an entry of a path item is, if it is one. -/
def candidate (path : Value) (entry : Value × Value) : Except Fault (Option Candidate) := do
  match ← methodOf entry.1, entry.2 with
  | some method, .map fields => .ok (some ⟨path, method, .map fields⟩)
  | _, _ => .ok none

/-- The entries of a path item with its key. -/
def entriesOf (pathItem : Value × Value) : List (Value × Value × Value) :=
  ((pathItem.2.entries?).getD []).map fun entry => (pathItem.1, entry)

/-- The entries of all path items, in document order. -/
def pathEntries (paths : List (Value × Value)) : List (Value × Value × Value) :=
  paths.flatMap entriesOf

namespace Candidate

/-- The name that the document gives to the operation, unless it is empty. -/
def givenName (candidate : Candidate) : Except Fault (Option String) := do
  match ← Value.writtenGiven (candidate.operation.field? "operationId") with
  | none | some "" => .ok none
  | some name => .ok (some name)

/-- The name that the path gives. A path that is no text gives none. -/
def pathName (candidate : Candidate) : Except Fault String :=
  match candidate.path with
  | .text path => .ok (Name.ofMethod candidate.method path)
  | .bytes _ => .error .badKind
  | _ => .error .missingMember

/-- The name of the operation: the given one, or else the one of the path. -/
def name (candidate : Candidate) : Except Fault String := do
  match ← candidate.givenName with
  | some name => .ok name
  | none => candidate.pathName

/-- Whether the document marks the operation as deprecated. -/
def isDeprecated (candidate : Candidate) : Bool := candidate.operation.flag "deprecated"

/-- The entries of the parameter list. -/
def parameters (candidate : Candidate) : List Value :=
  ((candidate.operation.field? "parameters").bind Value.items?).getD []

/-- The record about an operation that is left out. -/
def skipped (candidate : Candidate) (name : String) : LogRecord :=
  ⟨.warning, "Skip deprecated operation " ++ name ++ " (" ++ candidate.method.verb ++ " " ++
    candidate.path.toText ++ ")"⟩

/-- The operation, once its name is known and it is not deprecated. -/
def build (candidate : Candidate) (name : String) : Logged Operation := do
  let parameters := candidate.parameters
  let bodies := parametersIn .body parameters
  Logged.mk (ignoredParameters name parameters) (.ok ())
  let summary ← Logged.ofFaulty (Value.writtenGiven (candidate.operation.field? "summary"))
  let response ← Logged.ofFaulty (response ((candidate.operation.field? "responses").getD .null))
  let pathParameters ← Logged.ofFaulty (parameterProperties (parametersIn .path parameters))
  let queryParameters ← Logged.ofFaulty (parameterProperties (parametersIn .query parameters))
  Logged.mk (extraBodies name bodies) (.ok ())
  let body ← Logged.ofFaulty (bodyNode bodies)
  match Schema.propertyName? candidate.path with
  | none => Logged.fault .invalidField
  | some path =>
      pure { name, path, method := candidate.method, summary, response, pathParameters,
             queryParameters, body }

/-- The operation, or nothing when it is deprecated. -/
def extract (candidate : Candidate) : Logged (Option Operation) := do
  let name ← Logged.ofFaulty candidate.name
  if candidate.isDeprecated then
    Logged.mk [candidate.skipped name] (.ok none)
  else
    let operation ← candidate.build name
    pure (some operation)

end Candidate

/-- The operation of an entry of a path item; nothing when it is none or deprecated. -/
def operationAt (path : Value) (entry : Value × Value) : Logged (Option Operation) := do
  match ← Logged.ofFaulty (candidate path entry) with
  | some candidate => candidate.extract
  | none => pure none

/-- The operations of the paths. -/
def operations (paths : List (Value × Value)) : Logged (List Operation) := do
  let extracted ← Logged.forEach (fun item => operationAt item.1 item.2) (pathEntries paths)
  pure (extracted.filterMap id)

/-! ## Documents -/

/-- What the document is turned into once it is accepted. -/
def build (version : String) (paths : List (Value × Value)) (document : Value) : Logged Spec := do
  let info ← Logged.ofFaulty (info document)
  let definitions ← Logged.ofFaulty (definitions document)
  let operations ← operations paths
  pure { formatVersion := version, info, definitions, operations }

/-- The interface that a document describes. -/
def extract (document : Value) : Logged Spec :=
  match formatVersion document with
  | .error problem => .ofResult (.error problem)
  | .ok version =>
      match paths document with
      | .error failure => .fail failure
      | .ok entries => build version entries document

end ClientGen.Api
