import ClientGen.Console.Screen
import ClientGen.Host
import ClientGen.Log
import ClientGen.Program
import ClientGen.Text.Emoji

/-!
# The console

Data goes to standard output, everything addressed to a person goes to standard error. A manager
holds the choices that a person made for this; the console holds the current manager, the managers
that log records go to, and all that was written so far.
-/

namespace ClientGen

/-- How data is laid out. -/
inductive Layout where
  /-- As JSON. -/
  | json
  /-- As lines with tabs between fields. -/
  | plain
  /-- For reading at a terminal. -/
  | rich
  deriving DecidableEq, Repr, Inhabited

namespace Layout

/-- The name of a layout. -/
def name : Layout → String
  | .json => "json"
  | .plain => "plain"
  | .rich => "rich"

/-- The layout that a name asks for: none inside stands for the choice that suits the terminal. -/
def ofName? : String → Option (Option Layout)
  | "auto" => some none
  | "json" => some (some .json)
  | "plain" => some (some .plain)
  | "rich" => some (some .rich)
  | _ => none

end Layout

/-- What the surroundings say about written output. -/
structure Terminal where
  /-- Whether standard output is a terminal. -/
  isInteractive : Bool
  /-- Whether the environment forbids colours. -/
  forbidsColour : Bool
  /-- The number of cells of a line. -/
  width : Nat
  deriving DecidableEq, Repr, Inhabited

namespace Terminal

/-- The width of a screen that tells nothing about it. -/
def standardWidth : Nat := 80

/-- The width that a variable sets, when it is set to a number. -/
def widthOf (setting : Option String) : Nat :=
  match setting.map String.toList with
  | some (digit :: rest) =>
      let digits := digit :: rest
      if digits.all Text.isDigit then
        digits.foldl (fun n c => n * 10 + (Text.digitValue c).getD 0) 0
      else standardWidth
  | _ => standardWidth

/-- The terminal of a host. Colours are forbidden by a variable that is set to anything, and on a
terminal that cannot show them. -/
def ofHost (host : Host) : Terminal :=
  ⟨host.terminalOutput,
    (host.valueOf? "NO_COLOR").isSome || host.valueOf? "TERM" = some "dumb",
    widthOf (host.valueOf? "COLUMNS")⟩

end Terminal

/-- The choices for output. -/
structure Manager where
  /-- How data is laid out. -/
  layout : Layout
  /-- Whether diagnostics stay without colours. -/
  isColourless : Bool
  /-- Whether progress is left out. -/
  isQuiet : Bool
  /-- Whether details are shown. -/
  isVerbose : Bool
  deriving DecidableEq, Repr, Inhabited

namespace Manager

/-- The manager of some choices. Where no layout is chosen, a terminal with colours gets the rich
one and all else the plain one. -/
def create (terminal : Terminal) (choice : Option Layout) (colourless quiet verbose : Bool) :
    Manager :=
  let isColourless := colourless || terminal.forbidsColour
  let suited := if terminal.isInteractive && !isColourless then Layout.rich else .plain
  ⟨choice.getD suited, isColourless, quiet, verbose⟩

/-- The manager without any choice. -/
def standard (terminal : Terminal) : Manager := create terminal none false false false

end Manager

/-- The console of a run. -/
structure Console where
  /-- What the surroundings say. -/
  terminal : Terminal
  /-- The manager that was installed last. -/
  installed : Option Manager
  /-- The managers on whose standard error log records appear. -/
  handlers : List Manager
  /-- The mildest level of log records that appear, once that was set. -/
  level : Option LogLevel
  /-- All that was written to standard output. -/
  out : String
  /-- All that was written to standard error. -/
  err : String
  deriving DecidableEq, Repr, Inhabited

namespace Console

/-- The console before anything happened. -/
def initial (terminal : Terminal) : Console := ⟨terminal, none, [], none, "", ""⟩

/-- The manager in charge: the installed one, or the standard one. -/
def manager (console : Console) : Manager :=
  console.installed.getD (.standard console.terminal)

/-- Put a manager in charge. -/
def install (manager : Manager) (console : Console) : Console :=
  { console with installed := some manager }

/-- Put the standard manager in charge again. -/
def reset (console : Console) : Console := { console with installed := none }

/-- Write a line to standard output. -/
def writeLine (text : String) (console : Console) : Console :=
  { console with out := console.out ++ text ++ "\n" }

/-- Write a line to standard error. -/
def reportLine (text : String) (console : Console) : Console :=
  { console with err := console.err ++ text ++ "\n" }

/-! ## Diagnostics -/

/-- A text as the screen of a terminal shows it. -/
def displayed (terminal : Terminal) (text : String) : String :=
  String.ofList (Text.join ['\n'] (Screen.lines terminal.width (Text.withEmoji text.toList)))

/-- Write a diagnostic of a manager to standard error. -/
def diagnose (manager : Manager) (text : String) (console : Console) : Console :=
  console.reportLine (if manager.isColourless then text else displayed console.terminal text)

/-- Report progress. -/
def info (message : String) (console : Console) : Console :=
  if console.manager.isQuiet then console else console.diagnose console.manager message

/-- Report that the work is done. -/
def success (message : String) (console : Console) : Console := console.info message

/-- Report a failure. -/
def error (message : String) (console : Console) : Console :=
  console.diagnose console.manager ("Error: " ++ message)

/-- Report a detail of the work. -/
def debug (message : String) (console : Console) : Console :=
  if console.manager.isVerbose then console.diagnose console.manager ("[debug] " ++ message)
  else console

/-! ## Log records -/

/-- Take each handler off that an earlier call has left. -/
def dropHandlers (console : Console) : Console :=
  { console with handlers := console.handlers.foldl List.erase console.handlers }

/-- Let log records appear on the standard error of a manager, in place of any other. -/
def installHandler (manager : Manager) (console : Console) : Console :=
  { console.dropHandlers with
    handlers := console.dropHandlers.handlers ++ [manager]
    level := some (if manager.isVerbose then .debug else .warning) }

/-- The columns before the message of a log record. -/
def levelWidth : Nat := 8

/-- Fill a text with spaces up to a width. -/
def padded (width : Nat) (text : String) : String :=
  String.ofList (text.toList ++ List.replicate (width - text.toList.length) ' ')

/-- A log record as it appears: the level, then the message with its further lines below its
first. -/
def recordText (terminal : Terminal) (record : LogRecord) : String :=
  let margin := levelWidth + 1
  let lines := Screen.lines (terminal.width - margin) record.message.toList
  padded levelWidth record.level.name ++ " " ++
    String.ofList (Text.join ('\n' :: List.replicate margin ' ') lines)

/-- Whether a logger is one of the program's own. -/
def isOwnLogger (logger : String) : Bool :=
  logger = Program.name || Text.startsWith (Program.name.toList ++ ['.']) logger.toList

/-- Whether a record is severe enough to appear. -/
def admits (console : Console) (record : LogRecord) : Bool :=
  match console.level with
  | none => false
  | some level => level.rank ≤ record.level.rank

/-- Let a record of a logger appear, once for each handler. -/
def log (logger : String) (record : LogRecord) (console : Console) : Console :=
  if isOwnLogger logger && console.admits record then
    console.handlers.foldl (fun done _ => done.reportLine (recordText console.terminal record)) console
  else console

/-- Let the records of the program itself appear. -/
def logAll (records : List LogRecord) (console : Console) : Console :=
  records.foldl (fun done record => done.log Program.name record) console

end Console

end ClientGen
