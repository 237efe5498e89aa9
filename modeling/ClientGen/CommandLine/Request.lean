import ClientGen.CommandLine.Arguments
import ClientGen.Console.Basic
import ClientGen.Name.Case
import ClientGen.Text.Case
import ClientGen.Value.Basic

/-!
# Requests

What a command line asks for. Options for output come before the name of a command, the options of
the command after it. A help page or the version is given before anything else is looked at.
-/

namespace ClientGen.CommandLine

/-- The choices for output on a command line. -/
structure OutputChoices where
  /-- The chosen layout. -/
  layout : Option Layout
  /-- Whether colours are to be left out. -/
  colourless : Bool
  /-- Whether progress is to be left out. -/
  quiet : Bool
  /-- Whether details are to be shown. -/
  verbose : Bool
  deriving DecidableEq, Repr, Inhabited

/-- What an inspection shows. -/
inductive Subject where
  /-- The operations. -/
  | operations
  /-- The definitions. -/
  | definitions
  deriving DecidableEq, Repr

/-- What a generation is asked for. -/
structure Generation where
  /-- The document. -/
  source : String
  /-- The directory that all files go below. -/
  dist : Option String
  /-- The directory of definition files. -/
  definitionDir : Option String
  /-- The directory of operation files. -/
  operationDir : Option String
  /-- How property and parameter names are spelled. -/
  naming : Option Name.Convention
  /-- The path of a template for definitions. -/
  definitionTemplate : Option String
  /-- The path of a template for operations. -/
  operationTemplate : Option String
  /-- The project file. -/
  config : Option String
  /-- Whether the files are listed and not written. -/
  dryRun : Bool
  deriving DecidableEq, Repr

namespace Generation

/-- The options that the command line sets, null for those that it does not. -/
def entries (generation : Generation) : List (Value × Value) :=
  [(.text "dist", Value.ofOptional generation.dist),
    (.text "definition_dir", Value.ofOptional generation.definitionDir),
    (.text "operation_dir", Value.ofOptional generation.operationDir),
    (.text "naming", Value.ofOptional (generation.naming.map Name.Convention.name)),
    (.text "definition_template", Value.ofOptional generation.definitionTemplate),
    (.text "operation_template", Value.ofOptional generation.operationTemplate)]

end Generation

/-- What a command line asks for. -/
inductive Request where
  /-- The version. -/
  | version
  /-- A help page, asked for or in place of missing arguments. -/
  | help (asked : Bool)
  /-- Nothing that can be carried out. -/
  | rejected (complaint : Complaint)
  /-- A list of what a document describes. -/
  | inspect (choices : OutputChoices) (subject : Subject) (source : String)
  /-- A client. -/
  | generate (choices : OutputChoices) (generation : Generation)
  deriving DecidableEq, Repr

namespace Request

/-! ## Options of each command -/

/-- The option for a help page. -/
def helpForm : OptionForm := .flag "--help"

/-- The options before a command. -/
def programForms : List OptionForm :=
  [.flag "--version", .flag "--json", .flag "--plain", .flag "--no-color",
    .letterFlag "--quiet" 'q', .letterFlag "--verbose" 'v', helpForm]

/-- The options of an inspection. -/
def inspectForms : List OptionForm := [helpForm]

/-- The options of a generation. -/
def generateForms : List OptionForm :=
  [.letterValued "--dist" 'd', .valued "--definition-dir", .valued "--operation-dir",
    .valued "--naming", .valued "--definition-template", .valued "--operation-template",
    .letterValued "--config" 'c', .letterFlag "--dry-run" 'n', helpForm]

/-- The request of the first option that is answered before anything else. -/
def eager? : List OptionUse → Option Request
  | [] => none
  | use :: rest =>
      if use.long = "--version" then some .version
      else if use.long = "--help" then some (.help true)
      else eager? rest

/-! ## Commands -/

/-- The choices for output that options make. JSON comes before the plain layout. -/
def outputChoices (arguments : Arguments) : OutputChoices where
  layout :=
    if arguments.has "--json" then some .json
    else if arguments.has "--plain" then some .plain else none
  colourless := arguments.has "--no-color"
  quiet := arguments.has "--quiet"
  verbose := arguments.has "--verbose"

/-- The arguments of a command, unless they are refused or ask for a help page. -/
def ofCommand (forms : List OptionForm) (arguments : List String)
    (next : Arguments → Request) : Request :=
  match Arguments.read forms true arguments with
  | .error complaint => .rejected complaint
  | .ok read => (eager? read.uses).getD (next read)

/-- The request with the single operand of a command. -/
def withOperand (operands : List String) (next : String → Request) : Request :=
  match operands with
  | [] => .rejected .missingOperand
  | [operand] => next operand
  | _ :: extra => .rejected (.extraOperands extra)

/-- The request of an inspection. -/
def ofInspection (choices : OutputChoices) (subject : Subject) (arguments : List String) :
    Request :=
  ofCommand inspectForms arguments fun read =>
    withOperand read.operands fun source => .inspect choices subject source

/-- A text without differences of case. -/
def folded (text : String) : String := Text.lowerString (Text.upperString text)

/-- The naming convention that a text chooses, or that none is chosen. -/
def chosenNaming : Option String → Except Complaint (Option Name.Convention)
  | none => .ok none
  | some text =>
      match Name.Convention.ofName? (folded text) with
      | some convention => .ok (some convention)
      | none => .error (.invalidChoice "--naming" text)

/-- The request of a generation. -/
def ofGeneration (choices : OutputChoices) (arguments : List String) : Request :=
  ofCommand generateForms arguments fun read =>
    withOperand read.operands fun source =>
      match chosenNaming (read.value? "--naming") with
      | .error complaint => .rejected complaint
      | .ok naming => .generate choices {
          source := source
          dist := read.value? "--dist"
          definitionDir := read.value? "--definition-dir"
          operationDir := read.value? "--operation-dir"
          naming := naming
          definitionTemplate := read.value? "--definition-template"
          operationTemplate := read.value? "--operation-template"
          config := read.value? "--config"
          dryRun := read.has "--dry-run" }

/-! ## Groups of commands -/

/-- The request of a name that is no command. A name that looks like an option is read as one
before it is refused. -/
def ofUnknown (forms : List OptionForm) (name : String) (rest : List String) : Request :=
  if name.toList.head? = some '-' then
    match Arguments.read forms false (name :: rest) with
    | .error complaint => .rejected complaint
    | .ok read => (eager? read.uses).getD (.rejected (.unknownCommand name))
  else .rejected (.unknownCommand name)

/-- The request of a group of commands; without any argument it is a help page. -/
def ofGroup (forms : List OptionForm)
    (command? : Arguments → String → Option (List String → Request)) (arguments : List String) :
    Request :=
  if arguments.isEmpty then .help false
  else match Arguments.read forms false arguments with
    | .error complaint => .rejected complaint
    | .ok read =>
        match eager? read.uses, read.operands with
        | some request, _ => request
        | none, [] => .rejected .missingCommand
        | none, name :: rest =>
            match command? read name with
            | some command => command rest
            | none => ofUnknown forms name rest

/-- The commands that inspect. -/
def inspection? (choices : OutputChoices) : String → Option (List String → Request)
  | "operations" => some (ofInspection choices .operations)
  | "definitions" => some (ofInspection choices .definitions)
  | _ => none

/-- The commands of the program. -/
def command? (arguments : Arguments) : String → Option (List String → Request)
  | "generate" => some (ofGeneration (outputChoices arguments))
  | "inspect" => some (ofGroup inspectForms fun _ => inspection? (outputChoices arguments))
  | _ => none

/-- What a command line asks for. -/
def ofArguments (arguments : List String) : Request :=
  ofGroup programForms command? arguments

end Request

end ClientGen.CommandLine
