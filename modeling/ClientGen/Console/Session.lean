import ClientGen.Console.Data

/-!
# Sessions

A session is what happens on a console from the beginning on: managers are put in charge and taken
out, log records and diagnostics are reported, data is printed.
-/

namespace ClientGen.Console

/-- A step of a session. -/
inductive Step where
  /-- A manager of some choices is put in charge. -/
  | install (choice : Option Layout) (colourless quiet verbose : Bool)
  /-- The standard manager is put in charge again. -/
  | reset
  /-- Log records are to appear on the standard error of the manager in charge. -/
  | installHandler
  /-- A logger gets a record. -/
  | log (logger : String) (record : LogRecord)
  /-- Progress is reported. -/
  | info (message : String)
  /-- The end of the work is reported. -/
  | success (message : String)
  /-- A failure is reported. -/
  | error (message : String)
  /-- A detail of the work is reported. -/
  | debug (message : String)
  /-- A text is printed. -/
  | printData (text : String)
  /-- A value is printed. -/
  | printJson (value : Value)
  /-- A table is printed. -/
  | printTable (table : Table)

/-- The console after a step. -/
def perform (console : Console) : Step → Console
  | .install choice colourless quiet verbose =>
      console.install (.create console.terminal choice colourless quiet verbose)
  | .reset => console.reset
  | .installHandler => console.installHandler console.manager
  | .log logger record => console.log logger record
  | .info message => console.info message
  | .success message => console.success message
  | .error message => console.error message
  | .debug message => console.debug message
  | .printData text => console.writeLine text
  | .printJson value => console.printJson value
  | .printTable table => console.printTable table

/-- The console after steps that start at a console where nothing has happened. -/
def session (terminal : Terminal) (steps : List Step) : Console :=
  steps.foldl perform (.initial terminal)

end ClientGen.Console
