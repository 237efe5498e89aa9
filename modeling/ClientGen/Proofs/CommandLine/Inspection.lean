import ClientGen.Proofs.CommandLine.ExitCodes
import ClientGen.Proofs.Console.Channels
import ClientGen.Proofs.TypeScript.Expressible

/-!
# Inspections in plain lines

An inspection prints a line for each operation or definition below the headers. Types are printed on
one line, but names and paths as the document has them, so that a line is divided into its fields
again exactly if none of these has a tab or a line feed.
-/

namespace ClientGen

/-! ## Fields -/

theorem isField_append {first second : String} :
    IsField (first ++ second) ↔ IsField first ∧ IsField second := by
  rw [isField_iff, isField_iff, isField_iff, String.toList_append, List.mem_append, List.mem_append,
    not_or, not_or]
  exact and_and_and_comm

theorem isField_joinStrings {separator : String} (between : IsField separator)
    {pieces : List String} :
    IsField (Text.joinStrings separator pieces) ↔ ∀ piece ∈ pieces, IsField piece := by
  rw [isField_iff, Text.notMem_joinStrings between.tabless,
    Text.notMem_joinStrings between.lineless, ← forall₂_and]
  exact forall₂_congr fun piece _ => isField_iff.symm

/-- A text without blank characters but spaces can stand in a field. -/
theorem isField_singleSpaced (text : String) : IsField (Text.singleSpaced text) := by
  refine (isField_joinStrings (by decide)).mpr fun piece listed => ?_
  obtain ⟨word, found, rfl⟩ := List.mem_map.mp listed
  have unblank := (Text.forall_of_mem_runs found).2
  refine ⟨fun member => ?_, fun member => ?_⟩
  all_goals
    rw [String.toList_ofList] at member
    exact absurd (unblank _ member) (by decide)

namespace Api

/-! ## Rows -/

/-- The names of the properties that are listed. -/
def listedNames (node : TypeNode) : List String :=
  (node.properties.take listedProperties).map Prod.fst

theorem isField_propertyLabel {property : String × TypeNode} :
    IsField (propertyLabel property) ↔ IsField property.1 := by
  have mark : IsField (TypeScript.optionalMark property.2.required) := by
    cases property.2.required <;> decide
  rw [propertyLabel, isField_append]
  exact and_iff_left mark

/-- The listed properties can stand in a field exactly if their names can. -/
theorem isField_propertyNames {node : TypeNode} :
    IsField (propertyNames node) ↔ ∀ name ∈ listedNames node, IsField name := by
  have labels : (∀ label ∈ (node.properties.map propertyLabel).take listedProperties,
      IsField label) ↔ ∀ name ∈ listedNames node, IsField name := by
    rw [listedNames, ← List.map_take, List.forall_mem_map, List.forall_mem_map]
    exact forall₂_congr fun property _ => isField_propertyLabel
  have comma : IsField ", " := by decide
  rw [propertyNames, ← labels]
  split
  · next bare =>
      rw [List.isEmpty_iff.mp bare]
      exact iff_of_true (by decide) nofun
  · split
    · next short => rw [isField_joinStrings comma, List.take_of_length_le short]
    · rw [isField_append, isField_joinStrings comma]
      exact and_iff_left (by decide)

theorem succeeds_oneLine {empty : String} {node : TypeNode} :
    Succeeds (oneLine empty node) ↔ node.Expressible := by
  rw [oneLine, succeeds_map, ← TypeScript.joined_fragments, succeeds_map,
    TypeScript.succeeds_fragments_iff]

theorem isField_of_oneLine {empty text : String} {node : TypeNode}
    (written : oneLine empty node = .ok text) : IsField text := by
  obtain ⟨type, _, rfl⟩ := map_eq_ok.mp written
  exact isField_singleSpaced type

/-- An optional node whose type can be written. -/
def IsWritten (node : Option TypeNode) : Prop := ∀ held ∈ node, held.Expressible

theorem succeeds_optionalLine {node : Option TypeNode} :
    Succeeds (optionalLine node) ↔ IsWritten node := by
  cases node with
  | none => exact iff_of_true (succeeds_ok _) nofun
  | some held =>
      rw [optionalLine, succeeds_oneLine, IsWritten]
      simp

theorem isField_of_optionalLine {text : String} {node : Option TypeNode}
    (written : optionalLine node = .ok text) : IsField text := by
  cases node with
  | none =>
      cases written
      decide
  | some held => exact isField_of_oneLine written

/-- An operation whose row can be printed on a line and divided into its fields again. -/
structure Operation.IsRecord (operation : Operation) : Prop where
  /-- Its name can stand in a field. -/
  name : IsField operation.name
  /-- Its path can. -/
  path : IsField operation.path
  /-- The listed path parameters can. -/
  pathNames : ∀ name ∈ listedNames operation.pathNode, IsField name
  /-- The listed query parameters can. -/
  queryNames : ∀ name ∈ listedNames operation.queryNode, IsField name

/-- An operation whose types can be written. -/
structure Operation.HasTypes (operation : Operation) : Prop where
  body : IsWritten operation.body
  response : operation.response.Expressible

/-- A definition whose row can be printed on a line and divided into its fields again. -/
structure Definition.IsRecord (definition : Definition) : Prop where
  /-- Its name can stand in a field. -/
  name : IsField definition.name
  /-- The listed properties can. -/
  properties : ∀ name ∈ listedNames definition.schema, IsField name

theorem succeeds_operationRow {operation : Operation} :
    Succeeds (operationRow operation) ↔ operation.HasTypes := by
  have types : operation.HasTypes ↔ IsWritten operation.body ∧ operation.response.Expressible :=
    ⟨fun types => ⟨types.body, types.response⟩, fun both => ⟨both.1, both.2⟩⟩
  rw [operationRow, types, ← succeeds_optionalLine, ← succeeds_oneLine]
  exact succeeds_bind_iff fun body _ => succeeds_bind_ok

theorem isField_operationRow {operation : Operation} {row : List String}
    (made : operationRow operation = .ok row) :
    row.length = 7 ∧ ((∀ field ∈ row, IsField field) ↔ operation.IsRecord) := by
  obtain ⟨body, inside, made⟩ := bind_eq_ok.mp made
  obtain ⟨response, outside, made⟩ := bind_eq_ok.mp made
  cases made
  have method : IsField (Text.upperString operation.method.name) := by
    cases operation.method <;> decide
  refine ⟨rfl, ?_⟩
  simp only [List.forall_mem_cons, isField_propertyNames, isField_of_optionalLine inside,
    isField_of_oneLine outside, method, List.not_mem_nil, false_imp_iff, forall_const, true_and,
    and_true]
  exact ⟨fun fields => ⟨fields.1, fields.2.1, fields.2.2.1, fields.2.2.2⟩,
    fun record => ⟨record.name, record.path, record.pathNames, record.queryNames⟩⟩

theorem isField_definitionRow {definition : Definition} :
    (∀ field ∈ definitionRow definition, IsField field) ↔ definition.IsRecord := by
  have kind : IsField definition.schema.kindName := by
    rw [TypeNode.kindName.eq_def]
    split <;> decide
  simp only [definitionRow, List.forall_mem_cons, isField_propertyNames, kind, List.not_mem_nil,
    false_imp_iff, forall_const, true_and, and_true]
  exact ⟨fun fields => ⟨fields.1, fields.2⟩, fun record => ⟨record.name, record.properties⟩⟩

end Api

namespace Console

/-! ## Printed tables -/

theorem out_writeLines (lines : List String) :
    ∀ console : Console, (console.writeLines lines).out = console.out ++ linesText lines := by
  induction lines with
  | nil => exact fun console => String.append_empty.symm
  | cons line rest ih =>
      intro console
      refine (ih (console.writeLine line)).trans ?_
      rw [linesText, linesText, List.map_cons, String.join_cons, writeLine]
      simp only [String.append_assoc]

/-- A plain table is printed in the lines of its headers and rows. -/
theorem out_printTable_plain {console : Console} (plain : console.manager.layout = .plain)
    (table : Table) : (console.printTable table).out =
      console.out ++ linesText ((table.headers :: table.rows).map Table.line) := by
  rw [printTable, plain]
  exact out_writeLines _ console

end Console

namespace CommandLine

variable {host : Host} {choices : OutputChoices} {subject : Subject} {source : String}
  {spec : Api.Spec}

/-! ## Inspections -/

/-- The headers of what an inspection shows. -/
def subjectHeaders : Subject → List String
  | .operations => ["Name", "Method", "Path", "Path params", "Query params", "Body", "Response"]
  | .definitions => ["Name", "Kind", "Properties"]

/-- How many operations or definitions an inspection shows. -/
def subjectCount (spec : Api.Spec) : Subject → Nat
  | .operations => spec.operations.length
  | .definitions => spec.definitions.length

/-- A description whose operations or definitions all have types that can be written. -/
def HasTypes (spec : Api.Spec) : Subject → Prop
  | .operations => ∀ operation ∈ spec.operations, operation.HasTypes
  | .definitions => True

/-- A description without tabs and line feeds in the names and paths that an inspection shows. -/
def HasFields (spec : Api.Spec) : Subject → Prop
  | .operations => ∀ operation ∈ spec.operations, operation.IsRecord
  | .definitions => ∀ definition ∈ spec.definitions, definition.IsRecord

theorem succeeds_subjectTable : Succeeds (subjectTable spec subject) ↔ HasTypes spec subject := by
  cases subject with
  | definitions => exact iff_of_true (succeeds_ok _) trivial
  | operations =>
      rw [subjectTable, Api.operationTable, succeeds_bind_ok, succeeds_mapM]
      exact forall₂_congr fun operation _ => Api.succeeds_operationRow

/-- The shape of the table of what an inspection shows. -/
structure Tabulates (spec : Api.Spec) (subject : Subject) (table : Table) : Prop where
  headers : table.headers = subjectHeaders subject
  count : table.rows.length = subjectCount spec subject
  width : ∀ row ∈ table.rows, row.length = (subjectHeaders subject).length
  fields : (∀ row ∈ table.rows, ∀ field ∈ row, IsField field) ↔ HasFields spec subject

theorem tabulates_subjectTable {table : Table} (made : subjectTable spec subject = .ok table) :
    Tabulates spec subject table := by
  cases subject with
  | definitions =>
      obtain rfl := Except.ok.inj made
      refine ⟨rfl, List.length_map _, ?_, ?_⟩
      · exact List.forall_mem_map.mpr fun definition _ => rfl
      · exact List.forall_mem_map.trans (forall₂_congr fun _ _ => Api.isField_definitionRow)
  | operations =>
      obtain ⟨rows, each, made⟩ := bind_eq_ok.mp made
      obtain rfl := Except.ok.inj made
      have related := mapM_eq_ok.mp each
      refine ⟨rfl, related.length_eq.symm, ?_, ?_⟩
      · intro row member
        have backward : List.Forall₂ (fun row operation => Api.operationRow operation = .ok row)
          rows spec.operations := related.flip
        obtain ⟨operation, _, found⟩ := exists_of_forall₂ backward member
        exact (Api.isField_operationRow found).1
      · exact forall_mem_iff_of_forall₂ related fun _ _ found => (Api.isField_operationRow found).2

/-- The console of an inspection once the document was described. -/
def describedConsole (host : Host) (choices : OutputChoices) (source : String) : Console :=
  (commandConsole host choices).logAll (describe host source).logs

theorem layout_commandConsole {layout : Layout} (chosen : choices.layout = some layout) :
    (commandConsole host choices).manager.layout = layout := by
  show choices.layout.getD _ = layout
  rw [chosen]
  rfl

/-- An inspection of a document that is described shows what the description holds. -/
theorem perform_inspection (described : (describe host source).result = .ok spec) (layout : Layout)
    (subject : Subject) :
    (inspection host layout subject source).perform (commandConsole host choices) =
      (showSubject layout spec subject).perform (describedConsole host choices source) := by
  have loaded :
      (Reporting.ofLogged (describe host source)).perform (commandConsole host choices) =
        (.ok spec, describedConsole host choices source) := Prod.ext described rfl
  rw [inspection, Reporting.perform_bind_of_ok loaded]

/-- An inspection of a document that is described prints a table or ends in a fault. -/
theorem inspect_of_described (plain : choices.layout = some .plain)
    (described : (describe host source).result = .ok spec) (subject : Subject) :
    inspect host choices subject source =
      match subjectTable spec subject with
      | .ok table =>
          .told (.done ((describedConsole host choices source).printTable table) host.tree)
      | .error fault => crash host (describedConsole host choices source) fault := by
  rw [inspect, layout_commandConsole plain]
  simp only [perform_inspection described]
  rw [showSubject, if_neg (by decide)]
  cases subjectTable spec subject with
  | ok table => rfl
  | error fault => rfl

/-- What a script finds in the output of an inspection that it divides at line feeds and tabs: the
headers and as many records as there are operations or definitions, each with as many fields as
there are headers. -/
structure Divided (spec : Api.Spec) (subject : Subject) (outcome : Outcome) : Prop where
  success : outcome.exitCode = 0
  headed : (records outcome.out).head? = some (subjectHeaders subject)
  count : (records outcome.out).length = subjectCount spec subject + 1
  width : ∀ record ∈ records outcome.out, record.length = (subjectHeaders subject).length

/-- What an inspection prints in the plain layout. -/
structure PrintsPlainly (host : Host) (choices : OutputChoices) (source : String) (spec : Api.Spec)
    (subject : Subject) : Prop where
  /-- There are records to be divided exactly if all types can be written and no name or path that
  is shown has a tab or a line feed. -/
  divided : (∃ outcome, inspect host choices subject source = .told outcome ∧
      Divided spec subject outcome) ↔ HasTypes spec subject ∧ HasFields spec subject
  /-- The records are the headers and the rows, field by field. -/
  recovered : HasTypes spec subject → HasFields spec subject → ∃ table outcome,
    subjectTable spec subject = .ok table ∧ inspect host choices subject source = .told outcome ∧
      outcome.exitCode = 0 ∧ records outcome.out = table.headers :: table.rows
  /-- A type that cannot be written ends the run in a fault. -/
  faults : ¬ HasTypes spec subject → ∃ fault,
    inspect host choices subject source = crash host (describedConsole host choices source) fault

theorem isField_subjectHeaders (subject : Subject) : ∀ header ∈ subjectHeaders subject,
    IsField header := by
  cases subject <;> decide

theorem length_subjectHeaders_pos (subject : Subject) : 0 < (subjectHeaders subject).length := by
  cases subject <;> decide

namespace Tabulates

variable {table : Table} (shape : Tabulates spec subject table)
include shape

theorem wide : ∀ row ∈ table.headers :: table.rows,
    row.length = (subjectHeaders subject).length :=
  List.forall_mem_cons.mpr ⟨congrArg List.length shape.headers, shape.width⟩

theorem forall_isField_iff :
    (∀ row ∈ table.headers :: table.rows, ∀ field ∈ row, IsField field) ↔
      HasFields spec subject := by
  rw [List.forall_mem_cons, shape.fields, shape.headers]
  exact and_iff_right (isField_subjectHeaders subject)

theorem records_lines (held : HasFields spec subject) :
    records (linesText ((table.headers :: table.rows).map Table.line)) =
      table.headers :: table.rows := by
  refine records_rows (fun row member => List.ne_nil_of_length_pos ?_)
    (shape.forall_isField_iff.mpr held)
  rw [shape.wide row member]
  exact length_subjectHeaders_pos subject

/-- An output of the lines of the table is divided exactly if what is shown can stand in fields. -/
theorem divided_iff {outcome : Outcome} (success : outcome.exitCode = 0)
    (out : outcome.out = linesText ((table.headers :: table.rows).map Table.line)) :
    Divided spec subject outcome ↔ HasFields spec subject := by
  have counted : (table.headers :: table.rows).length = subjectCount spec subject + 1 := by
    rw [List.length_cons, shape.count]
  constructor
  · intro divided
    have count := divided.count
    have width := divided.width
    rw [out] at count width
    rw [← shape.forall_isField_iff,
      ← records_width_iff (length_subjectHeaders_pos subject) shape.wide]
    exact ⟨count.trans counted.symm, width⟩
  · intro held
    have recovered : records outcome.out = table.headers :: table.rows := by
      rw [out, shape.records_lines held]
    exact
      { success := success
        headed := by rw [recovered, List.head?_cons, shape.headers]
        count := by rw [recovered, counted]
        width := by
          rw [recovered]
          exact shape.wide }

end Tabulates

theorem exitCode_ne_zero_of_crash {console : Console} {fault : Fault} {outcome : Outcome}
    (told : crash host console fault = .told outcome) : outcome.exitCode ≠ 0 :=
  exitCode_ne_zero_of_stop (show IsOrdinary (.fault fault) from trivial)
    (show stop host console Failure.message (.fault fault) = .told outcome from told)

/-- The output of an inspection that is no fault. -/
theorem out_describedConsole_printTable (host : Host) (plain : choices.layout = some .plain)
    (source : String) (table : Table) :
    ((describedConsole host choices source).printTable table).out =
      linesText ((table.headers :: table.rows).map Table.line) := by
  have reported := Console.reported_logAll (describe host source).logs (commandConsole host choices)
  rw [describedConsole, reported.out_printTable,
    Console.out_printTable_plain (layout_commandConsole plain)]
  exact String.empty_append

/-- An inspection in the plain layout prints one line for each record, to be divided into its
fields again, exactly if no name or path that it shows has a tab or a line feed and all types can be
written. -/
theorem printsPlainly (plain : choices.layout = some .plain)
    (described : (describe host source).result = .ok spec) (subject : Subject) :
    PrintsPlainly host choices source spec subject := by
  have ended := inspect_of_described plain described subject
  cases made : subjectTable spec subject with
  | error fault =>
      have untyped : ¬ HasTypes spec subject := by
        rw [← succeeds_subjectTable, made]
        exact not_succeeds_error fault
      rw [made] at ended
      refine ⟨⟨?_, fun both => absurd both.1 untyped⟩, fun typed => absurd typed untyped,
        fun _ => ⟨fault, ended⟩⟩
      rintro ⟨outcome, told, divided⟩
      exact absurd divided.success (exitCode_ne_zero_of_crash (ended.symm.trans told))
  | ok table =>
      have typed : HasTypes spec subject := succeeds_subjectTable.mp ⟨table, made⟩
      have shape := tabulates_subjectTable made
      rw [made] at ended
      have out := out_describedConsole_printTable host plain source table
      have divided : Divided spec subject
          (.done ((describedConsole host choices source).printTable table) host.tree) ↔
            HasFields spec subject := shape.divided_iff rfl out
      refine ⟨⟨?_, fun both => ⟨_, ended, divided.mpr both.2⟩⟩, fun _ held => ?_,
        fun untyped => absurd typed untyped⟩
      · rintro ⟨outcome, told, found⟩
        obtain rfl := Ending.told.inj (ended.symm.trans told)
        exact ⟨typed, divided.mp found⟩
      · exact ⟨table, _, made, ended, rfl,
          (congrArg records out).trans (shape.records_lines held)⟩

/-- A host with a document of one definition and of one operation, whose identifier is given as JSON
writes it. -/
def notesHost (identifier : String) : Host :=
  { petsHost with
    tree := ⟨[(["work"], .directory), (["work", "notes.json"], .file 0o644 (Text.Utf8.encode
      ("\x7b\"swagger\":\"2.0\",\"paths\":\x7b\"/notes\":\x7b\"post\":\x7b".toList ++
        "\"operationId\":\"".toList ++ identifier.toList ++ "\",".toList ++
        "\"parameters\":[\x7b\"name\":\"note\",\"in\":\"body\",\"schema\":\x7b".toList ++
        "\"properties\":\x7b\"text\":\x7b\"type\":\"string\"\x7d\x7d\x7d\x7d],".toList ++
        "\"responses\":\x7b\"200\":\x7b\x7d\x7d\x7d\x7d\x7d,".toList ++
        "\"definitions\":\x7b\"Tag\":\x7b\"type\":\"string\"\x7d\x7d\x7d".toList)))]⟩ }

/-- What the document describes. -/
def notesSpec (name : String) : Api.Spec where
  formatVersion := "2.0"
  info := ⟨"Untitled API", "0.0.0", none⟩
  definitions := [⟨"Tag", .scalar false .string none⟩]
  operations := [⟨name, "/notes", .post, none, .empty false, [], [],
    some (.object false [("text", .scalar false .string none)] [])⟩]

/-- The choice of the plain layout. -/
def plainChoices : OutputChoices := ⟨some .plain, false, false, false⟩

/-- The table of the operation of the document. -/
def notesTable (name : String) : Table where
  title := some "Untitled API -- Operations (1)"
  headers := subjectHeaders .operations
  rows := [[name, "POST", "/notes", "-", "-", "\x7b text?: string; \x7d", "void"]]

theorem notesHost_printsPlainly :
    plainChoices.layout = some .plain ∧
    (describe (notesHost "addNote") "notes.json").result = .ok (notesSpec "addNote") ∧
    HasTypes (notesSpec "addNote") .operations ∧ HasFields (notesSpec "addNote") .operations ∧
    PrintsPlainly (notesHost "addNote") plainChoices "notes.json" (notesSpec "addNote")
      .operations := by
  have described : (describe (notesHost "addNote") "notes.json").result =
      .ok (notesSpec "addNote") := by
    rw [notesHost]
    iterate 8 rewrite [String.toList_ofList]
    decide +kernel
  have made : subjectTable (notesSpec "addNote") .operations = .ok (notesTable "addNote") := by
    decide +kernel
  have typed := succeeds_subjectTable.mp ⟨_, made⟩
  have fields := (tabulates_subjectTable made).fields.mp (by decide)
  exact ⟨rfl, described, typed, fields, printsPlainly rfl described .operations⟩

/-- An identifier with a tab gives a line with one field more than there are headers. -/
theorem tabbed_not_divided :
    (describe (notesHost "add\\tNote") "notes.json").result = .ok (notesSpec "add\tNote") ∧
    ∃ outcome, run (notesHost "add\\tNote") ["--plain", "inspect", "operations", "notes.json"] =
        .ok outcome ∧ outcome.exitCode = 0 ∧ (records outcome.out).map List.length = [7, 8] ∧
      ¬ Divided (notesSpec "add\tNote") .operations outcome := by
  have described : (describe (notesHost "add\\tNote") "notes.json").result =
      .ok (notesSpec "add\tNote") := by
    rw [notesHost]
    iterate 8 rewrite [String.toList_ofList]
    decide +kernel
  have made : subjectTable (notesSpec "add\tNote") .operations = .ok (notesTable "add\tNote") := by
    decide +kernel
  have request : Request.ofArguments ["--plain", "inspect", "operations", "notes.json"] =
      .inspect plainChoices .operations "notes.json" := by decide +kernel
  have plain : plainChoices.layout = some .plain := rfl
  have ended := inspect_of_described plain described .operations
  rw [made] at ended
  dsimp only at ended
  have out := out_describedConsole_printTable (notesHost "add\\tNote") plain "notes.json"
    (notesTable "add\tNote")
  generalize (describedConsole _ plainChoices "notes.json").printTable _ = console at ended out
  have widths : (records (linesText (((notesTable "add\tNote").headers ::
      (notesTable "add\tNote").rows).map Table.line))).map List.length = [7, 8] := by
    decide +kernel
  rw [← out] at widths
  refine ⟨described, .done console (notesHost "add\\tNote").tree, ?_, rfl, widths,
    fun divided => ?_⟩
  · rw [run, carryOut, request, ending, ended]
    rfl
  · have even : ∀ width ∈ (records console.out).map List.length, width = 7 :=
      List.forall_mem_map.mpr divided.width
    rw [widths] at even
    exact absurd even (by decide)

end CommandLine

end ClientGen
