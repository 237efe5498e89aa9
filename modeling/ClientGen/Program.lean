/-!
# The program's name and version
-/

namespace ClientGen.Program

/-- The name of the program: on the command line, in paths and as the root of its loggers. -/
def name : String := "swagts"

/-- The version of the program. -/
def version : String := "0.3.0"

end ClientGen.Program
