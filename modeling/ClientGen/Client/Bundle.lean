import ClientGen.Template.Compilation
import ClientGen.TypeScript.Expression
import ClientGen.TypeScript.PathLiteral

/-!
# Bundled templates

The templates that come with the program, and the filters that all templates of a client can use:
type expressions, path literals and the spellings of names.
-/

namespace ClientGen.Client

open Template

/-! ## Sources -/

/-- A statement tag. -/
def tag (inner : String) : String := "\x7b% " ++ inner ++ " %\x7d"

/-- A tag that prints a value. -/
def shown (inner : String) : String := "\x7b\x7b " ++ inner ++ " \x7d\x7d"

/-- Lines of a source. -/
def source (lines : List String) : String := String.join (lines.map (· ++ "\n"))

/-- The source of the file that all requests refer to. -/
def requestSource : String := source
  ["export type HTTPMethod = \"GET\" | \"PUT\" | \"POST\" | \"DELETE\" | \"OPTIONS\" | \"HEAD\" | \"PATCH\";",
    "",
    "export interface APIRequest<R> \x7b",
    "  method: HTTPMethod;",
    "  path: string;",
    "  query?: \x7b [key: string]: any \x7d;",
    "  body?: any;",
    "  // Phantom field carrying the response type for callers; not set at runtime.",
    "  _response?: R;",
    "\x7d"]

/-- The source of definition files. -/
def definitionSource : String := source
  [tag "for ref in imports",
    "import \x7b " ++ shown "ref" ++ " \x7d from \"./" ++ shown "ref" ++ "\";",
    tag "endfor",
    tag "if imports",
    "",
    tag "endif",
    "export type " ++ shown "type_name" ++ " = " ++ shown "schema | ts_type" ++ ";"]

/-- The source of operation files. -/
def operationSource : String := source
  ["import \x7b APIRequest \x7d from \"../APIRequest\";",
    tag "for ref in imports",
    "import \x7b " ++ shown "ref" ++ " \x7d from \"../" ++ shown "definition_dir" ++ "/" ++
      shown "ref" ++ "\";",
    tag "endfor",
    "",
    "export type " ++ shown "type_name" ++ "PathParameter = " ++
      shown "path_parameter | ts_type" ++ ";",
    "",
    "export type " ++ shown "type_name" ++ "QueryParameter = " ++
      shown "query_parameter | ts_type" ++ ";",
    tag "if body_parameter is not none",
    "",
    "export type " ++ shown "type_name" ++ "BodyParameter = " ++
      shown "body_parameter | ts_type" ++ ";",
    tag "endif",
    "",
    "export type " ++ shown "type_name" ++ "Response = " ++
      shown "response | ts_type(empty=\"void\")" ++ ";",
    "",
    tag "if summary",
    "/** " ++ shown "summary" ++ " */",
    tag "endif",
    "export function " ++ shown "name" ++ "(",
    "  pathParameter: " ++ shown "type_name" ++ "PathParameter,",
    tag "if body_parameter is not none",
    "  queryParameter: " ++ shown "type_name" ++ "QueryParameter,",
    "  body: " ++ shown "type_name" ++ "BodyParameter",
    tag "else",
    "  queryParameter: " ++ shown "type_name" ++ "QueryParameter",
    tag "endif",
    "): APIRequest<" ++ shown "type_name" ++ "Response> \x7b",
    "  return \x7b",
    "    method: \"" ++ shown "method" ++ "\",",
    "    path: " ++ shown "path | ts_path(\"pathParameter\")" ++ ",",
    "    query: queryParameter,",
    tag "if body_parameter is not none",
    "    body: body,",
    tag "endif",
    "  \x7d;",
    "\x7d"]

/-- The name of the template of the file that all requests refer to. -/
def requestTemplateName : String := "api_request.ts.j2"

/-- The name of the template of definition files. -/
def definitionTemplateName : String := "definition.ts.j2"

/-- The name of the template of operation files. -/
def operationTemplateName : String := "operation.ts.j2"

/-! ## Filters -/

/-- The type expression of a node. A node without a shape gives the datum `empty`. -/
def typeOf (convention : Name.Convention) (datum empty : Datum) : Run Datum := do
  match ← Run.shapeOf datum with
  | .empty _ => pure empty
  | shape => do
      let shown := TypeScript.expression convention "any" 0 shape
      pure (.text (← Run.ofResult (shown.mapError .fault)))

/-- A name in the chosen spelling. -/
def spelled (convention : Name.Convention) (datum : Datum) : Run Datum :=
  match convention, datum, datum.text? with
  | .preserve, _, _ => pure datum
  | .camel, _, some s => pure (datum.likeText (convention.apply s).toList)
  | .snake, _, some s => pure (.text (convention.apply s))
  | .camel, .undefined name, _ => Run.missing name
  | .camel, .bytes _, _ => Run.unsupported
  | .camel, _, _ => Run.fault .missingMember
  | .snake, _, _ => Run.unsupported

/-- The template literal of a path. -/
def pathText (convention : Name.Convention) (machine : Machine) (datum target : Datum) :
    Run Datum := do
  match datum, datum.text? with
  | _, some path => do pure (.text (TypeScript.pathLiteral path (← Run.text target) convention))
  | _, none => do
      if (← Run.size machine datum) = 0 then pure (.text (TypeScript.pathLiteral "" "" convention))
      else match datum with
        | .bytes _ => Run.unsupported
        | _ => Run.fault .missingMember

/-- A change of a name. -/
def nameFilter (change : String → String) : Filter := Run.plainFilter fun datum =>
  match datum.text? with
  | some s => pure (.text (change s))
  | none => Run.unsupported

/-- The filters of a client under a naming convention. -/
def filters (convention : Name.Convention) : Filters :=
  [("ts_type", Run.fittedFilter [("empty", some (.text "any"))] fun _ datum given =>
      typeOf convention datum (Run.argument given 0 .none)),
    ("normalize_case", Run.plainFilter (spelled convention)),
    ("ts_path", Run.fittedFilter [("target", some (.text "pathParameter"))]
      fun machine datum given => pathText convention machine datum (Run.argument given 0 .none)),
    ("pascal", nameFilter Name.pascal),
    ("identifier", nameFilter TypeScript.identifier)]

/-- The names of the filters of a client. -/
def filterNames : List String :=
  ["ts_type", "normalize_case", "ts_path", "pascal", "identifier"]

@[simp] theorem names_filters (convention : Name.Convention) :
    (filters convention).map (·.1) = filterNames := rfl

/-! ## Engine -/

/-- A template from its source. -/
def compileSource (text : String) : Result Template :=
  compile (filterNames ++ Run.standardFilters.map (·.1)) text

/-- The sources of the bundled templates by name. -/
def sources : List (String × String) :=
  [(requestTemplateName, requestSource), (definitionTemplateName, definitionSource),
    (operationTemplateName, operationSource)]

/-- The bundled templates by name. -/
def templates : Templates :=
  sources.filterMap fun (name, text) =>
    match compileSource text with
    | .ok template => some (name, template)
    | .error _ => none

/-- What the templates of a client can use. -/
def engine (convention : Name.Convention) : Engine :=
  ⟨filters convention ++ Run.standardFilters, templates⟩

end ClientGen.Client
