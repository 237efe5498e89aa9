import ClientGen.Console.Data
import ClientGen.Proofs.Text

/-!
# Standard output and standard error

What is addressed to a person is added to standard error and leaves everything else of a console as
it is, so that it has no part in the data that is printed later. Data is added to standard output
only.
-/

namespace ClientGen

namespace Console

/-- A console with more on its standard error. -/
def reporting (console : Console) (text : String) : Console :=
  { console with err := console.err ++ text }

/-- A console after something was added to its standard error, and nothing else happened. -/
def Reported (before after : Console) : Prop := ∃ text, after = before.reporting text

variable {before after console : Console}

theorem Reported.refl (console : Console) : console.Reported console := by
  refine ⟨"", ?_⟩
  rw [reporting, String.append_empty]

theorem Reported.trans {last : Console} (first : before.Reported after)
    (second : after.Reported last) : before.Reported last := by
  obtain ⟨text, rfl⟩ := first
  obtain ⟨more, rfl⟩ := second
  refine ⟨text ++ more, ?_⟩
  rw [reporting, reporting, reporting, String.append_assoc]

theorem reported_reportLine (text : String) (console : Console) :
    console.Reported (console.reportLine text) := by
  refine ⟨text ++ "\n", ?_⟩
  rw [reportLine, reporting, String.append_assoc]

/-! ## Diagnostics -/

/-- What a report of progress adds to standard error. -/
def progress (console : Console) (message : String) : String :=
  if console.manager.isQuiet then ""
  else
    (if console.manager.isColourless then message else displayed console.terminal message) ++ "\n"

theorem info_eq (message : String) (console : Console) :
    console.info message = console.reporting (console.progress message) := by
  rw [info, progress]
  split
  · rw [reporting, String.append_empty]
  · rw [diagnose, reportLine, reporting, String.append_assoc]

theorem reported_debug (message : String) (console : Console) :
    console.Reported (console.debug message) := by
  rw [debug]
  split
  · exact reported_reportLine _ console
  · exact Reported.refl console

/-! ## Log records -/

theorem reported_foldl {α : Type} {change : Console → α → Console}
    (each : ∀ done item, Reported done (change done item)) (items : List α) (console : Console) :
    console.Reported (items.foldl change console) := by
  induction items generalizing console with
  | nil => exact Reported.refl console
  | cons item rest ih => exact (each console item).trans (ih _)

theorem reported_log (logger : String) (record : LogRecord) (console : Console) :
    console.Reported (console.log logger record) := by
  rw [log]
  split
  · exact reported_foldl (fun done _ => reported_reportLine _ done) _ console
  · exact Reported.refl console

theorem reported_logAll (records : List LogRecord) (console : Console) :
    console.Reported (console.logAll records) :=
  reported_foldl (fun done record => reported_log _ record done) records console

/-! ## Data -/

theorem writeLines_reporting (lines : List String) (text : String) :
    ∀ console : Console,
      (console.reporting text).writeLines lines = (console.writeLines lines).reporting text := by
  induction lines with
  | nil => exact fun _ => rfl
  | cons line rest ih => exact fun console => ih (console.writeLine line)

/-- A table is printed the same whatever was reported before. -/
theorem printTable_reporting (table : Table) (console : Console) (text : String) :
    (console.reporting text).printTable table = (console.printTable table).reporting text := by
  have same : (console.reporting text).manager = console.manager := rfl
  rw [printTable, printTable, same]
  cases console.manager.layout with
  | json => rfl
  | plain => exact writeLines_reporting _ text console
  | rich => exact writeLines_reporting _ text console

theorem Reported.out_printTable (reported : before.Reported after) (table : Table) :
    (after.printTable table).out = (before.printTable table).out := by
  obtain ⟨text, rfl⟩ := reported
  rw [printTable_reporting]
  rfl

end Console

/-! ## Computations -/

namespace Reporting

variable {α β : Type}

/-- A chain goes on with the result and the console of its first part. -/
theorem perform_bind (first : Reporting α) (next : α → Reporting β) (console : Console) :
    (first >>= next).perform console =
      (ExceptT.bindCont next (first.perform console).1).run (first.perform console).2 := rfl

theorem perform_bind_of_ok {first : Reporting α} {console after : Console} {value : α}
    (performed : first.perform console = (.ok value, after)) (next : α → Reporting β) :
    (first >>= next).perform console = (next value).perform after := by
  rw [perform_bind, performed]
  rfl

/-- A computation that adds to standard error only. -/
def OnlyReports (computation : Reporting α) : Prop :=
  ∀ console : Console, console.Reported (computation.perform console).2

theorem OnlyReports.bind {first : Reporting α} {next : α → Reporting β} (before : OnlyReports first)
    (after : ∀ value, OnlyReports (next value)) : OnlyReports (first >>= next) := by
  intro console
  have reported := before console
  rw [perform_bind]
  cases (first.perform console).1 with
  | error problem => exact reported
  | ok value => exact reported.trans (after value _)

end Reporting

end ClientGen

/-!
## Records of plain tables

A plain table is printed in lines, each of fields with tabs between them. A script that divides the
lines at the tabs gets the rows back as long as no field has a tab or a line feed, and a field that
has one changes the number of lines or that of the fields of a line.
-/

namespace ClientGen

/-! ## Records -/

/-- The fields of a line. -/
def fieldsOf (line : List Char) : List String := (Text.splitOn '\t' line).map String.ofList

/-- The records of a text whose lines all end in a line feed: the fields of each line. -/
def records (text : String) : List (List String) :=
  (Text.splitOn '\n' text.toList).dropLast.map fieldsOf

/-- A text that can stand in a field. -/
structure IsField (text : String) : Prop where
  /-- It does not end the field. -/
  tabless : '\t' ∉ text.toList
  /-- It does not end the line. -/
  lineless : '\n' ∉ text.toList

theorem isField_iff {text : String} :
    IsField text ↔ '\t' ∉ text.toList ∧ '\n' ∉ text.toList :=
  ⟨fun field => ⟨field.tabless, field.lineless⟩, fun both => ⟨both.1, both.2⟩⟩

instance : DecidablePred IsField := fun _ => decidable_of_iff _ isField_iff.symm

/-- The text of lines that all end in a line feed. -/
def linesText (lines : List String) : String := String.join (lines.map (· ++ "\n"))

/-! ## Lines -/

theorem splitOn_linesText (lines : List String) :
    Text.splitOn '\n' (linesText lines).toList =
      (lines.map String.toList).flatMap (Text.splitOn '\n') ++ [[]] := by
  rw [linesText, String.toList_join]
  induction lines with
  | nil => rfl
  | cons line rest ih =>
      have ended : (line ++ "\n").toList = line.toList ++ ['\n'] := String.toList_append
      rw [List.map_cons, List.flatMap_cons, ended, List.append_assoc, List.singleton_append,
        Text.splitOn_append, ih, List.map_cons, List.flatMap_cons, List.append_assoc]

theorem records_linesText (lines : List String) :
    records (linesText lines) =
      ((lines.map String.toList).flatMap (Text.splitOn '\n')).map fieldsOf := by
  rw [records, splitOn_linesText, List.dropLast_concat]

/-- There are as many records as lines exactly if no line has a line feed. -/
theorem length_records_linesText (lines : List String) :
    (records (linesText lines)).length = lines.length ↔ ∀ line ∈ lines, '\n' ∉ line.toList := by
  have counted := (Text.length_flatMap_splitOn '\n' (lines.map String.toList)).2
  rw [List.length_map, List.forall_mem_map] at counted
  rw [records_linesText, List.length_map, counted]

theorem records_of_lineless {lines : List String} (lineless : ∀ line ∈ lines, '\n' ∉ line.toList) :
    records (linesText lines) = lines.map fun line => fieldsOf line.toList := by
  rw [records_linesText, Text.flatMap_splitOn_of_notMem (List.forall_mem_map.mpr lineless),
    List.map_map]
  rfl

/-! ## Fields -/

variable {row : List String}

theorem fieldsOf_line (present : row ≠ []) :
    fieldsOf (Table.line row).toList =
      ((row.map String.toList).flatMap (Text.splitOn '\t')).map String.ofList := by
  have several : row.map String.toList ≠ [] := List.map_eq_nil_iff.not.mpr present
  have tab : "\t".toList = ['\t'] := rfl
  rw [fieldsOf, Table.line, Text.joinStrings, String.toList_intercalate, tab,
    Text.splitOn_intercalate several]

/-- A line has as many fields as its row exactly if no field of the row has a tab. -/
theorem length_fieldsOf_line (present : row ≠ []) :
    (fieldsOf (Table.line row).toList).length = row.length ↔
      ∀ field ∈ row, '\t' ∉ field.toList := by
  have counted := (Text.length_flatMap_splitOn '\t' (row.map String.toList)).2
  rw [List.length_map, List.forall_mem_map] at counted
  rw [fieldsOf_line present, List.length_map, counted]

theorem fieldsOf_line_of_tabless (present : row ≠ [])
    (tabless : ∀ field ∈ row, '\t' ∉ field.toList) :
    fieldsOf (Table.line row).toList = row := by
  rw [fieldsOf_line present, Text.flatMap_splitOn_of_notMem (List.forall_mem_map.mpr tabless),
    List.map_map]
  have kept : ∀ field ∈ row, (String.ofList ∘ String.toList) field = field :=
    fun field _ => String.ofList_toList
  exact (List.map_congr_left kept).trans (List.map_id row)

/-- A line has no line feeds but those of its fields. -/
theorem lineFeed_notMem_line :
    '\n' ∉ (Table.line row).toList ↔ ∀ field ∈ row, '\n' ∉ field.toList :=
  Text.notMem_joinStrings (by decide)

/-! ## Tables -/

variable {rows : List (List String)}

/-- Rows of fields are got back from their lines. -/
theorem records_rows (present : ∀ row ∈ rows, row ≠ [])
    (fields : ∀ row ∈ rows, ∀ field ∈ row, IsField field) :
    records (linesText (rows.map Table.line)) = rows := by
  have lineless : ∀ line ∈ rows.map Table.line, '\n' ∉ line.toList := by
    intro line listed
    obtain ⟨row, member, rfl⟩ := List.mem_map.mp listed
    exact lineFeed_notMem_line.mpr fun field inside => (fields row member field inside).lineless
  rw [records_of_lineless lineless, List.map_map]
  have kept : ∀ row ∈ rows, fieldsOf (Table.line row).toList = row := fun row member =>
    fieldsOf_line_of_tabless (present row member)
      fun field inside => (fields row member field inside).tabless
  exact (List.map_congr_left kept).trans (List.map_id rows)

/-- Rows of one width are printed in as many lines, each with as many fields, exactly if none of
their fields has a tab or a line feed. -/
theorem records_width_iff {width : Nat} (positive : 0 < width)
    (wide : ∀ row ∈ rows, row.length = width) :
    ((records (linesText (rows.map Table.line))).length = rows.length ∧
        ∀ record ∈ records (linesText (rows.map Table.line)), record.length = width) ↔
      ∀ row ∈ rows, ∀ field ∈ row, IsField field := by
  have present : ∀ row ∈ rows, row ≠ [] := fun row member =>
    List.ne_nil_of_length_pos (by rw [wide row member]; exact positive)
  constructor
  · rintro ⟨counted, measured⟩
    have lines : (records (linesText (rows.map Table.line))).length =
        (rows.map Table.line).length := by rw [counted, List.length_map]
    have lineless := (length_records_linesText _).mp lines
    rw [records_of_lineless lineless, List.map_map, List.forall_mem_map] at measured
    intro row member
    have divided : (fieldsOf (Table.line row).toList).length = row.length := by
      rw [wide row member]
      exact measured row member
    have tabless := (length_fieldsOf_line (present row member)).mp divided
    have unbroken := lineFeed_notMem_line.mp (lineless _ (List.mem_map_of_mem member))
    exact fun field inside => ⟨tabless field inside, unbroken field inside⟩
  · intro fields
    rw [records_rows present fields]
    exact ⟨rfl, wide⟩

end ClientGen
