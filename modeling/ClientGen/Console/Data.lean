import ClientGen.Console.Basic
import ClientGen.Json.Writer

/-!
# Data on standard output

Data is printed as text, as indented JSON, or as a table in the layout of the manager in charge.
-/

namespace ClientGen

/-- Rows of text below their headers. -/
structure Table where
  /-- What the rows are about. -/
  title : Option String
  /-- The headers of the columns. -/
  headers : List String
  /-- The rows. -/
  rows : List (List String)
  deriving DecidableEq, Repr, Inhabited

namespace Table

/-- A row as a mapping from headers to fields; of two equal headers the later one counts. -/
def record (headers row : List String) : Value :=
  .map (Value.ofEntries ((headers.zip row).map fun (header, field) => (.text header, .text field)))

/-- The rows as a list of mappings. -/
def toValue (table : Table) : Value := .list (table.rows.map (record table.headers))

/-- The fields of a row with tabs between them. -/
def line (row : List String) : String := Text.joinStrings "\t" row

/-- The header line and the rows. -/
def lines (table : Table) : List String := (table.headers :: table.rows).map line

/-- The header line and the rows below the title. -/
def titledLines (table : Table) : List String := table.title.toList ++ table.lines

end Table

namespace Console

/-- Write lines to standard output. -/
def writeLines (lines : List String) (console : Console) : Console :=
  lines.foldl (fun done line => done.writeLine line) console

/-- Print a value as indented JSON. -/
def printJson (value : Value) (console : Console) : Console :=
  console.writeLine ((Json.indented value).toOption.getD "")

/-- Print a table. -/
def printTable (table : Table) (console : Console) : Console :=
  match console.manager.layout with
  | .json => console.printJson table.toValue
  | .plain => console.writeLines table.lines
  | .rich => console.writeLines table.titledLines

end Console

/-!
## Reporting computations

Computations that write to the console as they go and may end in a problem. What was written before
the problem stays written.
-/

/-- A computation on the console. -/
abbrev Reporting := ExceptT Problem (StateM Console)

namespace Reporting

/-- Change the console. -/
def write (change : Console → Console) : Reporting Unit := modify change

/-- The result of a computation whose log records appear on the console. -/
def ofLogged {α : Type} (computation : Logged α) : Reporting α := do
  write (Console.logAll computation.logs)
  ExceptT.mk (pure computation.result)

/-- A result that writes nothing. -/
def ofResult {α : Type} (result : Except Problem α) : Reporting α := ExceptT.mk (pure result)

/-- Run a computation: its result and the console after it. -/
def perform {α : Type} (computation : Reporting α) (console : Console) :
    Except Problem α × Console :=
  (ExceptT.run computation).run console

end Reporting

end ClientGen
