import ClientGen.Proofs.CommandLine.ExitCodes
import ClientGen.Proofs.CommandLine.Requests
import ClientGen.Proofs.Console.Channels

/-!
# Dry runs

A dry run lists what a run without the switch writes: the files in the order in which they are
announced, and the sizes of the files that the tree holds in the end.
-/

namespace ClientGen

/-! ## Paths of files -/

namespace Client

open FileTree

variable {settings : Settings} {root : Path} {spec : Api.Spec} {list : List File}

end Client

/-! ## Tables -/

/-- The field of a row below a header. -/
def Table.field (table : Table) (header : String) (row : List String) : String :=
  ((table.headers.zip row).lookup header).getD ""

/-- The fields below a header. -/
def Table.column (table : Table) (header : String) : List String :=
  table.rows.map (table.field header)

namespace CommandLine

open Client FileTree

variable {host : Host} {choices : OutputChoices} {generation : Generation} {result : Generated}
  {outcome : Outcome} {console after : Console}

/-! ## Runs of a generation -/

/-- Where the text of a path leads to from the working directory. -/
def resolved (host : Host) (text : String) : Path := target host.directory (Path.ofText text)

end CommandLine

end ClientGen
