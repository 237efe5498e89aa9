import ClientGen.CommandLine.Arguments
import ClientGen.Console.Basic

/-!
# Help and complaints

The help page, and how a complaint about the command line is shown: one about the value of an option
stands in a box as wide as the screen, any other one below the line that shows the usage.
-/

namespace ClientGen.CommandLine

/-- The line that shows the usage. -/
def usageLine : String := "Usage: " ++ Program.name ++ " [OPTIONS] COMMAND [ARGS]..."

/-- The lines of the help page. -/
def helpLines : List String :=
  [usageLine, "",
    "Generate TypeScript models and requests from Swagger 2.0 specs.", "",
    "Options:",
    "  --version               Show version and exit.",
    "  --json                  Print data as JSON.",
    "  --plain                 Print data as tab-separated text.",
    "  --no-color              Disable color output.",
    "  -q, --quiet             Only report warnings and errors.",
    "  -v, --verbose           Show debug messages and log records.",
    "  --help                  Show this message and exit.", "",
    "Commands:",
    "  generate SPEC           Generate models and request functions.",
    "  inspect operations SPEC   List the operations that will be generated.",
    "  inspect definitions SPEC  List the definitions that will be generated.", "",
    "Options of generate:",
    "  -d, --dist              Output root directory. [default: .]",
    "  --definition-dir        Sub-directory for models. [default: models]",
    "  --operation-dir         Sub-directory for requests. [default: requests]",
    "  --naming                Property name casing: preserve, camel, snake.",
    "  --definition-template   Custom template for definitions.",
    "  --operation-template    Custom template for operations.",
    "  -c, --config            Project config file. [default: ./swagts.json]",
    "  -n, --dry-run           List the files without writing them."]

/-- The help page. -/
def helpPage : String := String.join (helpLines.map (· ++ "\n"))

/-! ## Complaints -/

/-- The width of the screen where the environment does not tell it. -/
def standardWidth : Nat := 80

/-- The width of the screen. -/
def screenWidth (host : Host) : Nat :=
  match (host.valueOf? "COLUMNS").map String.toList with
  | some digits =>
      if !digits.isEmpty && digits.all Text.isDigit then Nat.ofDigitChars 10 digits 0
      else standardWidth
  | none => standardWidth

/-- A text of one character, repeated. -/
def repeated (count : Nat) (c : Char) : List Char := List.replicate count c

/-- A text in a box of some width with a title. -/
def boxed (width : Nat) (title text : String) : String :=
  let head := "╭─ ".toList ++ title.toList ++ [' ']
  let line := "│ ".toList ++ text.toList
  String.ofList (head ++ repeated (width - 1 - head.length) '─' ++ "╮\n".toList ++
    line ++ repeated (width - 1 - line.length) ' ' ++ "│\n╰".toList ++
    repeated (width - 2) '─' ++ "╯\n".toList)

/-- Whether a complaint is about the value of an option. -/
def Complaint.isAboutValue : Complaint → Bool
  | .missingValue _ | .unexpectedValue _ => true
  | _ => false

/-- A complaint as it is shown. -/
def Complaint.report (host : Host) (complaint : Complaint) : String :=
  let box := boxed (screenWidth host) "Error" complaint.message
  if complaint.isAboutValue then box else usageLine ++ "\n" ++ box

end ClientGen.CommandLine
