import ClientGen.Proofs.Client.Outline
import ClientGen.Proofs.Client.Templates
import ClientGen.Proofs.Template.Output

/-!
# Texts of operation files

The file of an operation that the bundled template gives is its outline, written down.
-/

namespace ClientGen.Client

open Template Template.Run TypeScript

/-! ## Values -/

/-- The cells of a body that may be missing. -/
def bodyCells : Option TypeNode → List Cell
  | none => []
  | some body => [.sealed body]

/-- The value of a body that may be missing. -/
def bodyValue : Option TypeNode → Datum
  | none => .none
  | some _ => .node 2

/-- The store with the values of an operation file. -/
def operationStore (operation : Api.Operation) (names : List String) : Store :=
  let cells : List Cell := .sealed operation.pathNode :: .sealed operation.queryNode ::
    (bodyCells operation.body ++
      [.sealed operation.response, .list (names.map Datum.text).toArray])
  ⟨cells.toArray, false, none⟩

/-- The place of the response of an operation. -/
def responsePlace (operation : Api.Operation) : Template.Place := 2 + (bodyCells operation.body).length

/-- The values of an operation file. -/
def operationGiven (settings : Settings) (operation : Api.Operation) : List (String × Datum) :=
  [("name", .text (identifier operation.name)), ("type_name", .text (typeStem operation)),
    ("summary", Datum.ofOptional operation.summary),
    ("method", .text (Text.upperString operation.method.name)), ("path", .text operation.path),
    ("path_parameter", .node 0), ("query_parameter", .node 1),
    ("body_parameter", bodyValue operation.body), ("response", .node (responsePlace operation)),
    ("imports", .list (responsePlace operation + 1)),
    ("definition_dir", .text settings.definitionDir)]

theorem operationVariables_eq (settings : Settings) (operation : Api.Operation)
    (references : List String) :
    operationVariables settings operation references Store.empty =
      .ok (operationGiven settings operation,
        operationStore operation (references.map identifier)) := by
  obtain ⟨name, path, method, summary, response, pathParameters, queryParameters, body⟩ :=
    operation
  cases body <;> rfl

theorem opens_operationTemplate (settings : Settings) (operation : Api.Operation) :
    Opens (operationGiven settings operation) operationTemplate.opening := by
  intro entry member
  right
  simp only [operationTemplate, List.mem_cons, List.not_mem_nil, or_false] at member
  rcases member with rfl | rfl | rfl | rfl | rfl | rfl | rfl | rfl | rfl | rfl <;>
    exact ⟨rfl, rfl⟩

/-! ## The function -/

/-- A text that is put together from two others, in front of more. -/
theorem append_of_eq (whole left right : String) (equal : whole = left ++ right) (rest : String) :
    whole ++ rest = left ++ (right ++ rest) := by
  rw [equal, String.append_assoc]

section

variable {convention : Name.Convention} {store : Store} {scope context : Template.Place} {depth : Nat}
  {templates : Templates}

/-- A condition on the body of an operation. -/
theorem reads_bodyFormula {body : Option TypeNode}
    (shown : Shows store scope (given "body_parameter") (bodyValue body)) :
    Reads store (((engine convention).machine (depth + 3)).value scope bodyFormula)
      (.ok (.bool body.isSome)) := by
  have present : (!isAbsent (bodyValue body)) = body.isSome := by
    cases body <;> rfl
  rw [← present]
  exact reads_not (reads_absent shown)

/-- A branch on the body of an operation. -/
theorem reads_bodyBranch {body : Option TypeNode} {present absent : List Instruction}
    {result : Template.Result String}
    (shown : Shows store scope (given "body_parameter") (bodyValue body))
    (inner : Prints store ((engine convention).machine (depth + 2)) (engine convention).templates
      scope (if body.isSome then present else absent) result) :
    Reads store (performOne ((engine convention).machine (depth + 3)) templates scope
      (.branch bodyFormula present [] absent)) result :=
  reads_branch (reads_bodyFormula shown) rfl inner

/-- A value that is printed after a text. -/
theorem prints_field {before text : String} {slot : Slot} {rest : List Instruction}
    {results : Template.Result String} (shown : Shows store scope slot (.text text))
    (others : Prints store ((engine convention).machine (depth + 1)) templates scope rest results) :
    Prints store ((engine convention).machine (depth + 1)) templates scope
      (.text before :: printed slot :: rest) (results.map fun more => before ++ (text ++ more)) := by
  have both : Prints store ((engine convention).machine (depth + 1)) templates scope
      (.text before :: printed slot :: rest) _ :=
    Prints.text (Prints.cons_ok (reads_print_name shown) others)
  cases results <;> exact both

/-- The instructions for the comment of an operation. -/
theorem reads_summary {summary : Option String}
    (shown : Shows store scope (given "summary") (Datum.ofOptional summary)) :
    Reads store (performOne ((engine convention).machine (depth + 2)) templates scope
      (.branch (.name (given "summary"))
        [.text "/** ", printed (given "summary"), .text " */\n"] [] []))
      (.ok (Fragment.joined (summaryParts summary))) := by
  cases summary with
  | none =>
      have truth : Reads store (isTruthy .none) (.ok false) := rfl
      exact reads_branch (reads_name shown) truth Prints.nil
  | some text =>
      have truth : Reads store (isTruthy (.text text)) (.ok !text.isEmpty) := rfl
      refine reads_branch (reads_name shown) truth ?_
      rw [summaryParts]
      cases text.isEmpty with
      | true => exact Prints.nil
      | false =>
          have line : Fragment.joined [.plain ("/** " ++ text ++ " */\n")] =
              "/** " ++ (text ++ (" */\n" ++ "")) := by
            simp [Fragment.text, String.append_assoc]
          simp only [Bool.false_eq_true, if_false, Bool.not_false, if_true]
          rw [line]
          exact prints_field shown (Prints.text Prints.nil)

/-- The variables for the function of an operation have their values. -/
structure ShowsFunction (store : Store) (scope : Template.Place) (operation : Api.Operation) : Prop where
  summary : Shows store scope (given "summary") (Datum.ofOptional operation.summary)
  name : Shows store scope (given "name") (.text (identifier operation.name))
  typeName : Shows store scope (given "type_name") (.text (typeStem operation))
  body : Shows store scope (given "body_parameter") (bodyValue operation.body)
  method : Shows store scope (given "method") (.text (Text.upperString operation.method.name))
  path : Shows store scope (given "path") (.text operation.path)

/-- The instructions for the parameters of the function after the first one. -/
theorem prints_parameters {operation : Api.Operation}
    (shown : ShowsFunction store scope operation) :
    Prints store ((engine convention).machine (depth + 1)) templates scope
      (if operation.body.isSome then
        [.text "  queryParameter: ", printed (given "type_name"),
          .text "QueryParameter,\n  body: ", printed (given "type_name"),
          .text "BodyParameter\n"]
      else
        [.text "  queryParameter: ", printed (given "type_name"), .text "QueryParameter\n"])
      (.ok (Fragment.joined (parameterParts operation))) := by
  rw [parameterParts]
  split
  · have first := append_of_eq "QueryParameter,\n  body: " "QueryParameter" ",\n  body: " rfl
    have last := append_of_eq "BodyParameter\n" "BodyParameter" "\n" rfl
    refine Prints.of_eq (prints_field shown.typeName (prints_field shown.typeName
      (Prints.text Prints.nil))) ?_
    simp only [first, last, Fragment.joined_cons, Fragment.joined_nil, Fragment.text,
      String.append_assoc]
  · have last := append_of_eq "QueryParameter\n" "QueryParameter" "\n" rfl
    refine Prints.of_eq (prints_field shown.typeName (Prints.text Prints.nil)) ?_
    simp only [last, Fragment.joined_cons, Fragment.joined_nil, Fragment.text,
      String.append_assoc]

/-- The instructions for the function. -/
theorem prints_functionCode {operation : Api.Operation}
    (shown : ShowsFunction store scope operation) :
    Prints store ((engine convention).machine (depth + 3)) (engine convention).templates scope
      functionCode
      (.ok (Fragment.joined (summaryParts operation.summary ++
        (headerParts operation ++ requestParts convention operation)))) := by
  have parameters : Reads store (performOne ((engine convention).machine (depth + 3))
      (engine convention).templates scope (.branch bodyFormula
        [.text "  queryParameter: ", printed (given "type_name"),
          .text "QueryParameter,\n  body: ", printed (given "type_name"), .text "BodyParameter\n"] []
        [.text "  queryParameter: ", printed (given "type_name"), .text "QueryParameter\n"]))
      (.ok (Fragment.joined (parameterParts operation))) :=
    reads_bodyBranch shown.body (prints_parameters shown)
  have sent : Reads store (performOne ((engine convention).machine (depth + 3))
      (engine convention).templates scope
      (.branch bodyFormula [.text "    body: body,\n"] [] []))
      (.ok (if operation.body.isSome then "    body: body,\n" else "")) := by
    refine reads_bodyBranch shown.body ?_
    cases operation.body.isSome with
    | true => exact Prints.text Prints.nil
    | false => exact Prints.nil
  have path : Reads store (performOne ((engine convention).machine (depth + 3))
      (engine convention).templates scope (.print .plain
        (.filter (.name (given "path")) "ts_path" [(.positional, .text "pathParameter")])))
      (.ok (pathLiteral operation.path "pathParameter" convention)) :=
    reads_print (reads_path "pathParameter" shown.path)
  have first := append_of_eq "PathParameter,\n" "PathParameter" ",\n" rfl
  have type := append_of_eq "): APIRequest<" "): " "APIRequest<" rfl
  have owner := append_of_eq "APIRequest<" requestOwner "<" rfl
  have last := append_of_eq "Response> \x7b\n  return \x7b\n    method: \"" "Response"
    "> \x7b\n  return \x7b\n    method: \"" rfl
  have result := append_of_eq "> \x7b\n  return \x7b\n    method: \"" "> \x7b\n"
    "  return \x7b\n    method: \"" rfl
  refine Prints.of_eq (Prints.cons_ok (reads_summary shown.summary)
    (prints_field shown.name (prints_field shown.typeName (Prints.text
      (Prints.cons_ok parameters (prints_field shown.typeName (prints_field shown.method
        (Prints.text (Prints.cons_ok path (Prints.text (Prints.cons_ok sent
          (Prints.text Prints.nil)))))))))))) ?_
  beta_reduce
  rw [headerParts, requestParts]
  simp only [first, type, owner, last, result, Fragment.joined_append, Fragment.joined_cons,
    Fragment.joined_nil, Fragment.text, String.append_assoc, String.append_empty]

/-! ## The types -/

/-- The line of an exported type with the empty line before it. -/
def typeLine (name type : String) : String := "\n" ++ ("export type " ++ name ++ " = " ++ type ++ ";\n")

/-- The line of the type of a body that may be missing. -/
def bodyLine (convention : Name.Convention) (stem : String) :
    Option TypeNode → Template.Result String
  | none => .ok ""
  | some body => (typeResult convention "any" body).map (typeLine (stem ++ "BodyParameter"))

/-- The places of the types of an operation and what stands there. -/
structure ShowsTypes (store : Store) (scope : Template.Place) (operation : Api.Operation) : Prop where
  pathCell : store.cells[0]? = some (.sealed operation.pathNode)
  path : Shows store scope (given "path_parameter") (.node 0)
  queryCell : store.cells[1]? = some (.sealed operation.queryNode)
  query : Shows store scope (given "query_parameter") (.node 1)
  bodyCell : ∀ body ∈ operation.body, store.cells[2]? = some (.sealed body)
  responseCell : store.cells[responsePlace operation]? = some (.sealed operation.response)
  response : Shows store scope (given "response") (.node (responsePlace operation))

/-- The instructions for the type of a body. -/
theorem reads_bodyLine {operation : Api.Operation} (shown : ShowsFunction store scope operation)
    (types : ShowsTypes store scope operation) :
    Reads store (performOne ((engine convention).machine (depth + 4)) templates scope
      (.branch bodyFormula
        [.text "\nexport type ", printed (given "type_name"), .text "BodyParameter = ",
          printedType "body_parameter", .text ";\n"] [] []))
      (bodyLine convention (typeStem operation) operation.body) := by
  have shownBody := shown.body
  have sealed := types.bodyCell
  refine reads_bodyBranch shownBody ?_
  cases body : operation.body with
  | none => exact Prints.nil
  | some node =>
      rw [body] at shownBody sealed
      have type : Reads store (performOne ((engine convention).machine (depth + 3))
          (engine convention).templates scope (printedType "body_parameter"))
          (typeResult convention "any" node) :=
        reads_print (reads_type shownBody (sealed node rfl))
      have whole : Prints store ((engine convention).machine (depth + 3))
          (engine convention).templates scope
          [.text "\nexport type ", printed (given "type_name"), .text "BodyParameter = ",
            printedType "body_parameter", .text ";\n"] _ :=
        prints_field shown.typeName (Prints.text (Prints.cons type (Prints.text Prints.nil)))
      rw [bodyLine]
      cases written : typeResult convention "any" node with
      | error problem =>
          rw [written] at whole
          simp only [Except.map, error_bind] at whole ⊢
          exact whole
      | ok text =>
          rw [written] at whole
          simp only [Except.map, ok_bind] at whole ⊢
          refine Prints.of_eq whole ?_
          have first := append_of_eq "\nexport type " "\n" "export type " rfl
          have last := append_of_eq "BodyParameter = " "BodyParameter" " = " rfl
          simp only [typeLine, first, last, String.append_assoc, String.append_empty]

/-- The lines of the types of an operation and its function. -/
def typeLines (convention : Name.Convention) (operation : Api.Operation) :
    Template.Result String := do
  let stem := typeStem operation
  let path ← typeResult convention "any" operation.pathNode
  let query ← typeResult convention "any" operation.queryNode
  let body ← bodyLine convention stem operation.body
  let response ← typeResult convention "void" operation.response
  .ok (typeLine (stem ++ "PathParameter") path ++ (typeLine (stem ++ "QueryParameter") query ++
    (body ++ (typeLine (stem ++ "Response") response ++
      Fragment.joined (functionParts convention operation)))))

/-- The instructions after the imports print the types and the function. -/
theorem prints_operationTypeCode (convention : Name.Convention) (depth : Nat)
    {operation : Api.Operation} (shown : ShowsFunction store scope operation)
    (types : ShowsTypes store scope operation) :
    Prints store ((engine convention).machine (depth + 4)) (engine convention).templates scope
      operationTypeCode (typeLines convention operation) := by
  have path : Reads store (performOne ((engine convention).machine (depth + 4))
      (engine convention).templates scope (printedType "path_parameter"))
      (typeResult convention "any" operation.pathNode) :=
    reads_print (reads_type types.path types.pathCell)
  have query : Reads store (performOne ((engine convention).machine (depth + 4))
      (engine convention).templates scope (printedType "query_parameter"))
      (typeResult convention "any" operation.queryNode) :=
    reads_print (reads_type types.query types.queryCell)
  have response : Reads store (performOne ((engine convention).machine (depth + 4))
      (engine convention).templates scope
      (.print .plain
        (.filter (.name (given "response")) "ts_type" [(.named "empty", .text "void")])))
      (typeResult convention "void" operation.response) :=
    reads_print (reads_type_with "void" types.response types.responseCell)
  have whole : Prints store ((engine convention).machine (depth + 4))
      (engine convention).templates scope operationTypeCode _ :=
    prints_field shown.typeName (Prints.text (Prints.cons path
      (prints_field shown.typeName (Prints.text (Prints.cons query (Prints.text
        (Prints.cons (reads_bodyLine shown types)
          (prints_field shown.typeName (Prints.text (Prints.cons response
            (Prints.text (prints_functionCode shown))))))))))))
  rw [typeLines]
  generalize typeResult convention "any" operation.pathNode = first at whole ⊢
  generalize typeResult convention "any" operation.queryNode = second at whole ⊢
  generalize bodyLine convention (typeStem operation) operation.body = third at whole ⊢
  generalize typeResult convention "void" operation.response = fourth at whole ⊢
  rcases first with _ | pathText
  · simpa only [Except.map, error_bind] using whole
  rcases second with _ | queryText
  · simpa only [Except.map, ok_bind, error_bind] using whole
  rcases third with _ | bodyText
  · simpa only [Except.map, ok_bind, error_bind] using whole
  rcases fourth with _ | responseText
  · simpa only [Except.map, ok_bind, error_bind] using whole
  simp only [Except.map, ok_bind] at whole ⊢
  refine Prints.of_eq whole ?_
  have opening := append_of_eq "\nexport type " "\n" "export type " rfl
  have afterPath := append_of_eq "PathParameter = " "PathParameter" " = " rfl
  have between := append_of_eq ";\n\nexport type " ";\n" "\nexport type " rfl
  have afterQuery := append_of_eq "QueryParameter = " "QueryParameter" " = " rfl
  have afterResponse := append_of_eq "Response = " "Response" " = " rfl
  have closing := append_of_eq ";\n\n" ";\n" "\n" rfl
  simp only [typeLine, functionParts, opening, afterPath, between, afterQuery, afterResponse,
    closing, Fragment.joined_cons, Fragment.text, String.append_assoc]

end

/-! ## The text -/

/-- The line of the import of a type of the directory of definitions. -/
def definitionLine (directory : String) (item : Datum) : String :=
  match item.text? with
  | some name => Import.line ⟨name, "../" ++ directory ++ "/" ++ name⟩
  | none => ""

section

variable {convention : Name.Convention} {store : Store} {scope : Template.Place} {depth : Nat}
  {templates : Templates}

/-- The loop body prints the line of an import. -/
theorem prints_operationImportCode {name directory : String}
    (shown : Shows store scope (local_ "ref") (.text name))
    (placed : Shows store scope (local_ "definition_dir") (.text directory)) :
    Prints store ((engine convention).machine (depth + 1)) templates scope operationImportCode
      (.ok (Import.line ⟨name, "../" ++ directory ++ "/" ++ name⟩)) := by
  refine Prints.of_eq (prints_field shown (prints_field placed (prints_field shown
    (Prints.text Prints.nil)))) ?_
  have merged := append_of_eq " \x7d from \"../" " \x7d from \"" "../" rfl
  simp only [line_import, merged, String.append_assoc, String.append_empty]

/-- The values of an operation file stand where its template starts. -/
theorem showsFunction_of_ready {settings : Settings} {operation : Api.Operation}
    {names : List String} {context : Template.Place}
    (ready : Ready (operationStore operation names) (operationGiven settings operation)
      operationTemplate context scope store) : ShowsFunction store scope operation where
  summary := ready.shown (by decide) rfl
  name := ready.shown (by decide) rfl
  typeName := ready.shown (by decide) rfl
  body := ready.shown (by decide) rfl
  method := ready.shown (by decide) rfl
  path := ready.shown (by decide) rfl

/-- A run of the loop keeps the variables for the function. -/
theorem ShowsFunction.extend {operation : Api.Operation} {after : Store}
    (shown : ShowsFunction store scope operation) (extension : Extends scope store after) :
    ShowsFunction after scope operation where
  summary := extension.shows rfl shown.summary
  name := extension.shows rfl shown.name
  typeName := extension.shows rfl shown.typeName
  body := extension.shows rfl shown.body
  method := extension.shows rfl shown.method
  path := extension.shows rfl shown.path

/-- A run of the loop keeps the types. -/
theorem ShowsTypes.extend {operation : Api.Operation} {after : Store} {level : Nat}
    {outer : Option Template.Place} {context : Template.Place} {values : List (Slot × Datum)}
    (types : ShowsTypes store scope operation)
    (present : store.cells[scope]? = some (.scope level outer context values))
    (extension : Extends scope store after) : ShowsTypes after scope operation where
  pathCell := extension.kept present nofun types.pathCell
  path := extension.shows rfl types.path
  queryCell := extension.kept present nofun types.queryCell
  query := extension.shows rfl types.query
  bodyCell body inside := extension.kept present nofun (types.bodyCell body inside)
  responseCell := extension.kept present nofun types.responseCell
  response := extension.shows rfl types.response

theorem responseCell_operationStore (operation : Api.Operation) (names : List String) :
    (operationStore operation names).cells[responsePlace operation]? =
        some (.sealed operation.response) ∧
      (operationStore operation names).cells[responsePlace operation + 1]? =
        some (.list (names.map Datum.text).toArray) := by
  rw [responsePlace, operationStore]
  cases operation.body <;> exact ⟨rfl, rfl⟩

theorem showsTypes_of_ready {settings : Settings} {operation : Api.Operation}
    {names : List String} {context : Template.Place}
    (ready : Ready (operationStore operation names) (operationGiven settings operation)
      operationTemplate context scope store) : ShowsTypes store scope operation where
  pathCell := ready.kept rfl
  path := ready.shown (by decide) rfl
  queryCell := ready.kept rfl
  query := ready.shown (by decide) rfl
  bodyCell := by
    intro body present
    refine ready.kept ?_
    rw [operationStore, Option.mem_def.mp present]
    rfl
  responseCell := ready.kept (responseCell_operationStore operation names).1
  response := ready.shown (by decide) rfl

end

/-- What the template prints for an operation. -/
theorem render_operation (settings : Settings) (operation : Api.Operation)
    (references : List String) :
    (engine settings.naming).render (operationVariables settings operation references)
        operationTemplate =
      (typeLines settings.naming operation).map fun lines =>
        requestImport.line ++
          (String.join ((references.map identifier).map fun name =>
            Import.line ⟨name, "../" ++ settings.definitionDir ++ "/" ++ name⟩) ++ lines) := by
  let names := references.map identifier
  refine render_eq (operationVariables_eq settings operation references) rfl rfl
    (opens_operationTemplate settings operation) ?_
  intro context scope store ready
  have shown := showsFunction_of_ready ready
  have types := showsTypes_of_ready ready
  have listed := ready.kept (responseCell_operationStore operation names).2
  have imported : Shows store scope (given "imports") (.list (responsePlace operation + 1)) :=
    ready.shown (by decide) rfl
  obtain ⟨_, present⟩ := ready.scopeCell
  have turns : ∀ item ∈ (names.map Datum.text).toArray.toList, ∀ now, Extends scope store now →
      ∃ after, turn ((engine settings.naming).machine 2999) scope (local_ "ref")
          operationImportOpening operationImportCode item now =
            .ok (definitionLine settings.definitionDir item, after) ∧
        Extends scope now after := by
    intro item member now extension
    rw [List.toList_toArray, List.mem_map] at member
    obtain ⟨name, _, rfl⟩ := member
    obtain ⟨_, scopeNow, _⟩ := extension.bindings present
    refine turn_eq scopeNow (extension.kept present nofun ready.contextCell) ?_ (by decide)
      (by decide) (by decide) fun after _ shown others =>
        prints_operationImportCode shown (others _ _ (by decide) rfl)
    intro entry inside
    simp only [operationImportOpening, List.mem_cons, List.not_mem_nil, or_false] at inside
    rcases inside with rfl | rfl
    · exact Or.inl rfl
    · exact Or.inr ⟨rfl, rfl⟩
  have loop : ∃ after, performOne ((engine settings.naming).machine 2999)
      (engine settings.naming).templates scope
      (.loop (plainLoop (local_ "ref") operationImportOpening operationImportCode)
        (.name (given "imports"))) store = .ok (_, after) ∧ Extends scope store after :=
    performOne_loop (definitionLine settings.definitionDir) present listed (by decide)
      (reads_name imported) turns
  have lines : ((names.map Datum.text).toArray.toList.map
      (definitionLine settings.definitionDir)) =
      names.map fun name => Import.line ⟨name, "../" ++ settings.definitionDir ++ "/" ++ name⟩ := by
    rw [List.toList_toArray, List.map_map]
    rfl
  rw [lines] at loop
  have rest := fun after (extension : Extends scope store after) =>
    prints_operationTypeCode settings.naming 2995 (shown.extend extension)
      (types.extend present extension)
  have whole : Writes store ((engine settings.naming).machine 2999)
      (engine settings.naming).templates scope operationTemplate.body _ :=
    Writes.text (Writes.cons loop rest)
  have first : requestImport.line = "import \x7b APIRequest \x7d from \"../APIRequest\";\n" := rfl
  rw [first]
  cases written : typeLines settings.naming operation with
  | error problem =>
      rw [written] at whole
      simp only [Except.map] at whole ⊢
      exact whole
  | ok lines =>
      rw [written] at whole
      simp only [Except.map] at whole ⊢
      exact whole

/-- The line of the type of a body from its fragments. -/
theorem bodyLine_eq (convention : Name.Convention) (stem : String) (body : Option TypeNode) :
    bodyLine convention stem body =
      ((bodyParts convention body).map fun parts =>
        String.join ((parts.map fun parts => Export.mk (stem ++ "BodyParameter") parts).toList.map
          fun entry => "\n" ++ entry.line)).mapError .fault := by
  cases body with
  | none => rfl
  | some node =>
      rw [bodyLine, bodyParts, typeResult, ← joined_fragments]
      cases fragments convention "any" 0 node with
      | error problem => rfl
      | ok parts =>
          rw [ok_bind]
          simp only [Except.map, Except.mapError, Option.map_some, Option.toList_some,
            List.map_cons, List.map_nil, String.join_cons, String.join_nil, String.append_empty,
            typeLine, line_export]

/-- The text of an operation file is its outline, if all references are known. -/
theorem operationText_eq (settings : Settings) (known : List String)
    (operation : Api.Operation) :
    operationText settings operationTemplate known operation =
      checkedReferences operation.name known operation.nodes >>= fun _ =>
        ((operationOutline settings.naming settings.definitionDir operation).map
          Outline.text).mapError .fault := by
  rw [operationText]
  cases checked : checkedReferences operation.name known operation.nodes with
  | error problem => rw [error_bind, error_bind]
  | ok references =>
      have collected := (checkedReferences_eq_ok.mp checked).1
      subst collected
      rw [ok_bind, ok_bind, printFor, render_operation, typeLines, operationOutline, bodyLine_eq]
      simp only [typeResult, ← joined_fragments]
      generalize fragments settings.naming "any" 0 operation.pathNode = first
      generalize fragments settings.naming "any" 0 operation.queryNode = second
      generalize bodyParts settings.naming operation.body = third
      generalize fragments settings.naming "void" 0 operation.response = fourth
      rcases first with _ | path
      · rfl
      rcases second with _ | query
      · rfl
      rcases third with _ | body
      · rfl
      rcases fourth with _ | response
      · rfl
      simp only [Except.map, Except.mapError, ok_bind, Outline.text, Outline.gap,
        operationImportsOf, List.map_cons, List.map_map, String.join_cons, List.isEmpty_cons,
        Bool.false_eq_true, if_false, List.cons_append, List.nil_append, List.map_append,
        String.join_append, List.map_nil, String.join_nil, String.append_empty, typeLine,
        line_export, String.append_assoc]
      rfl


end ClientGen.Client
