import ClientGen.Client.Files
import ClientGen.Proofs.Template.Compiling
import ClientGen.Proofs.Template.Loop
import ClientGen.Proofs.TypeScript.Fragment

/-!
# The bundled templates in compiled form

The sources of definition and operation files, divided into pieces, parsed into statements and
compiled to instructions. What the files contain is read off the instructions.
-/

namespace ClientGen.Client

open Template Template.Run Template.Compilation

/-- The names of all filters that the templates of a client can use. -/
def knownFilters : List String := filterNames ++ Run.standardFilters.map (·.1)

/-! ## Definition files -/

/-- The pieces of the source of definition files. -/
def definitionPieces : List Piece :=
  [.tag [.name "for", .name "ref", .name "in", .name "imports"],
    .text "import \x7b ", .output [.name "ref"], .text " \x7d from \"./", .output [.name "ref"],
    .text "\";\n", .tag [.name "endfor"],
    .tag [.name "if", .name "imports"], .text "\n", .tag [.name "endif"],
    .text "export type ", .output [.name "type_name"], .text " = ",
    .output [.name "schema", .mark "|", .name "ts_type"], .text ";\n"]

/-- The statements of the source of definition files. -/
def definitionStatements : List Statement :=
  [.loop (.name "ref") (.name "imports") none false
      [.text "import \x7b ", .print [.name "ref"], .text " \x7d from \"./", .print [.name "ref"],
        .text "\";\n"] [],
    .branch (.name "imports") [.text "\n"] [] [],
    .text "export type ", .print [.name "type_name"], .text " = ",
    .print [.filter (.name "schema") "ts_type" []], .text ";\n"]

/-- A variable that the template is given. -/
def given (name : String) : Slot := ⟨0, name⟩

/-- A variable of a loop. -/
def local_ (name : String) : Slot := ⟨1, name⟩

/-- The instruction that prints a variable. -/
def printed (slot : Slot) : Instruction := .print .plain (.name slot)

/-- The instructions for an import of a definition file. -/
def definitionImportCode : List Instruction :=
  [.text "import \x7b ", printed (local_ "ref"), .text " \x7d from \"./", printed (local_ "ref"),
    .text "\";\n"]

/-- The instructions after the imports of a definition file. -/
def definitionTypeCode : List Instruction :=
  [.branch (.name (given "imports")) [.text "\n"] [] [],
    .text "export type ", printed (given "type_name"), .text " = ",
    .print .plain (.filter (.name (given "schema")) "ts_type" []), .text ";\n"]

/-- The opening of the loop over the imports of a definition file. -/
def definitionImportOpening : Opening := [(local_ "ref", .given)]

/-- The template of definition files. -/
def definitionTemplate : Template where
  current := none
  opening := [(given "imports", .context), (given "type_name", .context),
    (given "schema", .context)]
  body := .loop (plainLoop (local_ "ref") definitionImportOpening definitionImportCode)
    (.name (given "imports")) :: definitionTypeCode
  blocks := []

set_option maxRecDepth 20000

-- The literals are opened as lists first: the kernel would decode their octets.
private theorem ofSource_definitionSource :
    Piece.ofSource definitionSource.toList = .ok definitionPieces := by
  simp only [definitionSource, source, String.toList_join, List.map, List.flatMap_cons,
    List.flatMap_nil, String.toList_append, tag, shown, List.append_assoc]
  repeat rewrite [String.toList_ofList]
  decide +kernel

private theorem ofPieces_definitionPieces :
    Statement.ofPieces definitionPieces = .ok definitionStatements := rfl

private def definitionScope : Scope :=
  [⟨0, [("imports", .context), ("type_name", .context), ("schema", .context)], []⟩]

private theorem visitAll_definitionStatements :
    Scope.outermost.visitAll definitionStatements = definitionScope := rfl

private theorem compiles_definitionStatements :
    Compiles (topFrame knownFilters definitionScope) definitionStatements
      definitionTemplate.body := by
  have plain := plain_topFrame knownFilters definitionScope
  refine Compiles.loop rfl rfl rfl (.name rfl) ?_ ?_
  · have inside := plain.inner (turnScope (topFrame knownFilters definitionScope) "ref"
      [.text "import \x7b ", .print [.name "ref"], .text " \x7d from \"./", .print [.name "ref"],
        .text "\";\n"])
    refine Compiles.text inside (Compiles.print inside rfl (.name rfl) ?_)
    refine Compiles.text inside (Compiles.print inside rfl (.name rfl) ?_)
    exact Compiles.text inside Compiles.nil
  · refine Compiles.branch (.name rfl) (Compiles.text plain.soft Compiles.nil) Compiles.nil ?_
    refine Compiles.text plain (Compiles.print plain rfl (.name rfl) ?_)
    refine Compiles.text plain (Compiles.print plain rfl ?_ (Compiles.text plain Compiles.nil))
    exact Computes.filter rfl rfl rfl (.name rfl) argumentFormulas_nil

/-- The source of definition files compiles. -/
theorem compileSource_definitionSource :
    compileSource definitionSource = .ok definitionTemplate := by
  exact compile_eq ofSource_definitionSource ofPieces_definitionPieces
    (templateCode_eq rfl rfl rfl visitAll_definitionStatements compiles_definitionStatements)

/-! ## Operation files -/

/-- The symbols of a condition on the body of a request. -/
def bodyCondition : List Symbol :=
  [.name "if", .name "body_parameter", .name "is", .name "not", .name "none"]

/-- The pieces of the source of operation files. -/
def operationPieces : List Piece :=
  [.text "import \x7b APIRequest \x7d from \"../APIRequest\";\n",
    .tag [.name "for", .name "ref", .name "in", .name "imports"],
    .text "import \x7b ", .output [.name "ref"], .text " \x7d from \"../", .output [.name "definition_dir"],
    .text "/", .output [.name "ref"], .text "\";\n", .tag [.name "endfor"],
    .text "\nexport type ", .output [.name "type_name"], .text "PathParameter = ",
    .output [.name "path_parameter", .mark "|", .name "ts_type"],
    .text ";\n\nexport type ", .output [.name "type_name"], .text "QueryParameter = ",
    .output [.name "query_parameter", .mark "|", .name "ts_type"], .text ";\n",
    .tag bodyCondition,
    .text "\nexport type ", .output [.name "type_name"], .text "BodyParameter = ",
    .output [.name "body_parameter", .mark "|", .name "ts_type"], .text ";\n",
    .tag [.name "endif"],
    .text "\nexport type ", .output [.name "type_name"], .text "Response = ",
    .output [.name "response", .mark "|", .name "ts_type", .mark "(", .name "empty", .mark "=",
      .text "void", .mark ")"],
    .text ";\n\n",
    .tag [.name "if", .name "summary"], .text "/** ", .output [.name "summary"], .text " */\n",
    .tag [.name "endif"],
    .text "export function ", .output [.name "name"], .text "(\n  pathParameter: ",
    .output [.name "type_name"], .text "PathParameter,\n",
    .tag bodyCondition,
    .text "  queryParameter: ", .output [.name "type_name"], .text "QueryParameter,\n  body: ",
    .output [.name "type_name"], .text "BodyParameter\n",
    .tag [.name "else"],
    .text "  queryParameter: ", .output [.name "type_name"], .text "QueryParameter\n",
    .tag [.name "endif"],
    .text "): APIRequest<", .output [.name "type_name"],
    .text "Response> \x7b\n  return \x7b\n    method: \"", .output [.name "method"],
    .text "\",\n    path: ",
    .output [.name "path", .mark "|", .name "ts_path", .mark "(", .text "pathParameter", .mark ")"],
    .text ",\n    query: queryParameter,\n",
    .tag bodyCondition, .text "    body: body,\n", .tag [.name "endif"],
    .text "  \x7d;\n\x7d\n"]

/-- The condition that there is a body. -/
def hasBody : Expression := .not (.test (.name "body_parameter") "none" [])

/-- The statements of the source of operation files. -/
def operationStatements : List Statement :=
  [.text "import \x7b APIRequest \x7d from \"../APIRequest\";\n",
    .loop (.name "ref") (.name "imports") none false
      [.text "import \x7b ", .print [.name "ref"], .text " \x7d from \"../",
        .print [.name "definition_dir"], .text "/", .print [.name "ref"], .text "\";\n"] [],
    .text "\nexport type ", .print [.name "type_name"], .text "PathParameter = ",
    .print [.filter (.name "path_parameter") "ts_type" []],
    .text ";\n\nexport type ", .print [.name "type_name"], .text "QueryParameter = ",
    .print [.filter (.name "query_parameter") "ts_type" []], .text ";\n",
    .branch hasBody
      [.text "\nexport type ", .print [.name "type_name"], .text "BodyParameter = ",
        .print [.filter (.name "body_parameter") "ts_type" []], .text ";\n"] [] [],
    .text "\nexport type ", .print [.name "type_name"], .text "Response = ",
    .print [.filter (.name "response") "ts_type" [(.named "empty", .text "void")]],
    .text ";\n\n",
    .branch (.name "summary") [.text "/** ", .print [.name "summary"], .text " */\n"] [] [],
    .text "export function ", .print [.name "name"], .text "(\n  pathParameter: ",
    .print [.name "type_name"], .text "PathParameter,\n",
    .branch hasBody
      [.text "  queryParameter: ", .print [.name "type_name"],
        .text "QueryParameter,\n  body: ", .print [.name "type_name"], .text "BodyParameter\n"] []
      [.text "  queryParameter: ", .print [.name "type_name"], .text "QueryParameter\n"],
    .text "): APIRequest<", .print [.name "type_name"],
    .text "Response> \x7b\n  return \x7b\n    method: \"", .print [.name "method"],
    .text "\",\n    path: ",
    .print [.filter (.name "path") "ts_path" [(.positional, .text "pathParameter")]],
    .text ",\n    query: queryParameter,\n",
    .branch hasBody [.text "    body: body,\n"] [] [],
    .text "  \x7d;\n\x7d\n"]

/-- The instructions for an import of an operation file. -/
def operationImportCode : List Instruction :=
  [.text "import \x7b ", printed (local_ "ref"), .text " \x7d from \"../",
    printed (local_ "definition_dir"), .text "/", printed (local_ "ref"), .text "\";\n"]

/-- The opening of the loop over the imports of an operation file. -/
def operationImportOpening : Opening :=
  [(local_ "ref", .given), (local_ "definition_dir", .context)]

/-- The formula that there is a body. -/
def bodyFormula : Formula := .not (.test (.name (given "body_parameter")) "none" [])

/-- The instruction that prints the type of a variable. -/
def printedType (name : String) : Instruction :=
  .print .plain (.filter (.name (given name)) "ts_type" [])

/-- The instructions for the function of an operation file. -/
def functionCode : List Instruction :=
  [.branch (.name (given "summary")) [.text "/** ", printed (given "summary"), .text " */\n"] [] [],
    .text "export function ", printed (given "name"), .text "(\n  pathParameter: ",
    printed (given "type_name"), .text "PathParameter,\n",
    .branch bodyFormula
      [.text "  queryParameter: ", printed (given "type_name"),
        .text "QueryParameter,\n  body: ", printed (given "type_name"), .text "BodyParameter\n"] []
      [.text "  queryParameter: ", printed (given "type_name"), .text "QueryParameter\n"],
    .text "): APIRequest<", printed (given "type_name"),
    .text "Response> \x7b\n  return \x7b\n    method: \"", printed (given "method"),
    .text "\",\n    path: ",
    .print .plain (.filter (.name (given "path")) "ts_path" [(.positional, .text "pathParameter")]),
    .text ",\n    query: queryParameter,\n",
    .branch bodyFormula [.text "    body: body,\n"] [] [],
    .text "  \x7d;\n\x7d\n"]

/-- The instructions after the imports of an operation file. -/
def operationTypeCode : List Instruction :=
  .text "\nexport type " :: printed (given "type_name") :: .text "PathParameter = " ::
    printedType "path_parameter" ::
    .text ";\n\nexport type " :: printed (given "type_name") :: .text "QueryParameter = " ::
    printedType "query_parameter" :: .text ";\n" ::
    .branch bodyFormula
      [.text "\nexport type ", printed (given "type_name"), .text "BodyParameter = ",
        printedType "body_parameter", .text ";\n"] [] [] ::
    .text "\nexport type " :: printed (given "type_name") :: .text "Response = " ::
    .print .plain (.filter (.name (given "response")) "ts_type" [(.named "empty", .text "void")]) ::
    .text ";\n\n" :: functionCode

/-- The template of operation files. -/
def operationTemplate : Template where
  current := none
  opening := [(given "imports", .context), (given "type_name", .context),
    (given "path_parameter", .context), (given "query_parameter", .context),
    (given "body_parameter", .context), (given "response", .context), (given "summary", .context),
    (given "name", .context), (given "method", .context), (given "path", .context)]
  body := .text "import \x7b APIRequest \x7d from \"../APIRequest\";\n" ::
    .loop (plainLoop (local_ "ref") operationImportOpening operationImportCode)
      (.name (given "imports")) :: operationTypeCode
  blocks := []

private theorem ofSource_operationSource :
    Piece.ofSource operationSource.toList = .ok operationPieces := by
  simp only [operationSource, source, String.toList_join, List.map, List.flatMap_cons,
    List.flatMap_nil, String.toList_append, tag, shown, List.append_assoc]
  repeat rewrite [String.toList_ofList]
  decide +kernel

private theorem ofPieces_operationPieces :
    Statement.ofPieces operationPieces = .ok operationStatements := rfl

private def operationScope : Scope :=
  [⟨0, [("imports", .context), ("type_name", .context), ("path_parameter", .context),
    ("query_parameter", .context), ("body_parameter", .context), ("response", .context),
    ("summary", .context), ("name", .context), ("method", .context), ("path", .context)], []⟩]

private theorem visitAll_operationStatements :
    Scope.outermost.visitAll operationStatements = operationScope := rfl


private theorem computes_hasBody :
    Computes (topFrame knownFilters operationScope).soft hasBody bodyFormula :=
  Computes.not rfl (Computes.test rfl rfl (.name rfl))

private theorem compiles_operationStatements :
    Compiles (topFrame knownFilters operationScope) operationStatements operationTemplate.body := by
  have plain := plain_topFrame knownFilters operationScope
  have soft := plain.soft
  refine Compiles.text plain (Compiles.loop rfl rfl rfl (.name rfl) ?_ ?_)
  · have inside := plain.inner (turnScope (topFrame knownFilters operationScope) "ref"
      [.text "import \x7b ", .print [.name "ref"], .text " \x7d from \"../",
        .print [.name "definition_dir"], .text "/", .print [.name "ref"], .text "\";\n"])
    refine Compiles.field inside rfl (Compiles.field inside rfl (Compiles.field inside rfl ?_))
    exact Compiles.text inside Compiles.nil
  refine Compiles.field plain rfl (Compiles.text plain (Compiles.print plain rfl
    (.filter rfl rfl rfl (.name rfl) argumentFormulas_nil) ?_))
  refine Compiles.field plain rfl (Compiles.text plain (Compiles.print plain rfl
    (.filter rfl rfl rfl (.name rfl) argumentFormulas_nil) (Compiles.text plain ?_)))
  refine Compiles.branch computes_hasBody ?_ Compiles.nil ?_
  · refine Compiles.field soft rfl (Compiles.text soft (Compiles.print soft rfl
      (.filter rfl rfl rfl (.name rfl) argumentFormulas_nil) ?_))
    exact Compiles.text soft Compiles.nil
  refine Compiles.field plain rfl (Compiles.text plain (Compiles.print plain rfl
    (.filter rfl rfl rfl (.name rfl) (argumentFormulas_one (.text "void")))
    (Compiles.text plain ?_)))
  refine Compiles.branch (.name rfl) ?_ Compiles.nil ?_
  · exact Compiles.field soft rfl (Compiles.text soft Compiles.nil)
  refine Compiles.field plain rfl (Compiles.field plain rfl (Compiles.text plain ?_))
  refine Compiles.branch computes_hasBody ?_ ?_ ?_
  · exact Compiles.field soft rfl (Compiles.field soft rfl (Compiles.text soft Compiles.nil))
  · exact Compiles.field soft rfl (Compiles.text soft Compiles.nil)
  refine Compiles.field plain rfl (Compiles.field plain rfl (Compiles.text plain ?_))
  refine Compiles.print plain rfl (.filter rfl rfl rfl (.name rfl)
    (argumentFormulas_one (.text "pathParameter"))) (Compiles.text plain ?_)
  refine Compiles.branch computes_hasBody ?_ Compiles.nil (Compiles.text plain Compiles.nil)
  exact Compiles.text soft Compiles.nil

/-- The source of operation files compiles. -/
theorem compileSource_operationSource :
    compileSource operationSource = .ok operationTemplate := by
  exact compile_eq ofSource_operationSource ofPieces_operationPieces
    (templateCode_eq rfl rfl rfl visitAll_operationStatements compiles_operationStatements)

end ClientGen.Client

/-!
## Type expressions and path literals in templates

What the filters of a client give for the values that its templates are given.
-/

namespace ClientGen.Client

open Template Template.Run

variable {store : Store} {scope place : Template.Place} {convention : Name.Convention} {depth : Nat}
  {shape : TypeNode} {name : String}

/-- The type expression of a node as the result of a template. -/
def typeResult (convention : Name.Convention) (empty : String) (shape : TypeNode) :
    Template.Result String :=
  (TypeScript.expression convention empty 0 shape).mapError .fault

theorem reads_typeOf (empty : String) (sealed : store.cells[place]? = some (.sealed shape)) :
    Reads store (typeOf convention (.node place) (.text empty))
      ((typeResult convention empty shape).map .text) := by
  have found : Reads store (shapeOf (.node place)) (.ok shape) := by
    have sealedCell : Reads store (Run.read place) (.ok (.sealed shape)) := by
      simp [Reads, Run.read, sealed, Except.map]
    exact sealedCell.bind_ok (Reads.pure _)
  rw [typeOf]
  refine found.bind_ok ?_
  have shown : ∀ text : Except ClientGen.Fault String,
      Reads store (do pure (Datum.text (← ofResult (text.mapError TemplateFault.fault))))
        ((text.mapError TemplateFault.fault).map .text) := by
    intro text
    cases text <;> rfl
  cases shape with
  | empty required => exact Reads.pure _
  | scalar required kind literals => exact shown _
  | array required items => exact shown _
  | object required properties bases => exact shown _
  | reference required name => exact shown _

/-- The type expression of a variable. -/
theorem reads_type {slot : Slot} (shown : Shows store scope slot (.node place))
    (sealed : store.cells[place]? = some (.sealed shape)) :
    Reads store (((engine convention).machine (depth + 2)).value scope
        (.filter (.name slot) "ts_type" []))
      ((typeResult convention "any" shape).map .text) := by
  rw [value_succ, valueOf]
  refine (reads_name shown).bind_ok ?_
  have supplied : Reads store (supply ((engine convention).machine (depth + 1)) scope [])
      (.ok Supplied.nothing) := rfl
  refine supplied.bind_ok ?_
  exact reads_typeOf "any" sealed

/-- The type expression of a variable, with a text for a node without a shape. -/
theorem reads_type_with {slot : Slot} (empty : String)
    (shown : Shows store scope slot (.node place))
    (sealed : store.cells[place]? = some (.sealed shape)) :
    Reads store (((engine convention).machine (depth + 2)).value scope
        (.filter (.name slot) "ts_type" [(.named "empty", .text empty)]))
      ((typeResult convention empty shape).map .text) := by
  rw [value_succ, valueOf]
  refine (reads_name shown).bind_ok ?_
  have supplied : Reads store (supply ((engine convention).machine (depth + 1)) scope
      [(.named "empty", .text empty)]) (.ok ⟨[], [("empty", .text empty)]⟩) := rfl
  refine supplied.bind_ok ?_
  exact reads_typeOf empty sealed

/-- The path literal of a variable. -/
theorem reads_path {slot : Slot} {path : String} (target : String)
    (shown : Shows store scope slot (.text path)) :
    Reads store (((engine convention).machine (depth + 2)).value scope
        (.filter (.name slot) "ts_path" [(.positional, .text target)]))
      (.ok (.text (TypeScript.pathLiteral path target convention))) := by
  rw [value_succ, valueOf]
  refine (reads_name shown).bind_ok ?_
  have supplied : Reads store (supply ((engine convention).machine (depth + 1)) scope
      [(.positional, .text target)]) (.ok ⟨[.text target], []⟩) := rfl
  refine supplied.bind_ok ?_
  rfl

end ClientGen.Client
