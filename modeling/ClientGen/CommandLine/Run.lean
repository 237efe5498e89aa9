import ClientGen.Api.Encoding
import ClientGen.Api.Extraction
import ClientGen.Api.Overview
import ClientGen.Client.Files
import ClientGen.CommandLine.Help
import ClientGen.CommandLine.Request
import ClientGen.Console.Data
import ClientGen.DataDirectory
import ClientGen.Options

/-!
# Runs

A run carries out a command line on a host. Failures are reported with their own exit codes. A fault
leaves a crash log in the data directory; only when that cannot be written has the run no outcome,
and the directories that were made for it stay. Files are written last, so that nothing else can
fail once the tree has changed.
-/

namespace ClientGen.CommandLine

/-- The outcome of a run. -/
structure Outcome where
  /-- The exit code. -/
  exitCode : Int
  /-- What was written to standard output. -/
  out : String
  /-- What was written to standard error. -/
  err : String
  /-- The file tree afterwards. -/
  tree : FileTree
  /-- What ended the run early. -/
  problem : Option Problem
  deriving DecidableEq, Repr

namespace Outcome

/-- The outcome of a run that writes to neither the console nor the tree. -/
def silent (host : Host) (exitCode : Int) : Outcome := ⟨exitCode, "", "", host.tree, none⟩

/-- The outcome of a run that was carried out, with what a console holds. -/
def done (console : Console) (tree : FileTree) : Outcome :=
  ⟨0, console.out, console.err, tree, none⟩

/-- The outcome of a run that a problem ended. -/
def ended (exitCode : Int) (console : Console) (tree : FileTree) (problem : Problem) : Outcome :=
  ⟨exitCode, console.out, console.err, tree, some problem⟩

end Outcome

/-- How a run ends. -/
inductive Ending where
  /-- With an outcome. -/
  | told (outcome : Outcome)
  /-- Without one: a fault kept the crash log of another one from being written. -/
  | lost (tree : FileTree) (fault : Fault)
  deriving DecidableEq, Repr

namespace Ending

/-- The file tree that a run leaves. -/
def tree : Ending → FileTree
  | .told outcome => outcome.tree
  | .lost tree _ => tree

/-- What ended the run early. -/
def problem : Ending → Option Problem
  | .told outcome => outcome.problem
  | .lost _ fault => some fault

/-- The outcome of a run, or the fault in place of one. -/
def outcome : Ending → Except Fault Outcome
  | .told outcome => .ok outcome
  | .lost _ fault => .error fault

end Ending

/-! ## How runs end -/

/-- The exit code of a run that a person interrupts. -/
def interruptedCode : Int := 130

/-- The outcome of a run that a person interrupts. -/
def interrupted (host : Host) : Outcome :=
  { Outcome.silent host interruptedCode with err := "\nCancelled.\n" }

/-- The exit code of a run that ends in a fault. -/
def faultCode : Int := 1

/-- The path of the crash log of a run, below the directory of crash logs. -/
def crashLogName (host : Host) : String := "crash-" ++ host.time ++ ".log"

/-- The text of a crash log. -/
def crashLogText (fault : Fault) : String := "Unexpected: " ++ fault.message ++ "\n"

/-- The path of the crash log of a run, once the data directory is known. -/
def crashLogPath (host : Host) (directory : Path) : Path :=
  (directory.child "logs").child (crashLogName host)

/-- Write a file where a path leads to. -/
def writeAlong (host : Host) (tree : FileTree) (path : Path) (octets : List UInt8) : Attempt Unit :=
  match tree.walk (FileTree.origin host.directory.parts path) path.parts with
  | .error refusal => ⟨tree, .error refusal.fault⟩
  | .ok place => .ofChange (tree.writeAt place octets)

/-- Write a crash log; its path. -/
def writeCrashLog (host : Host) (fault : Fault) : Attempt Path :=
  (DataDirectory.prepare host).andThen fun tree directory =>
    (DataDirectory.make host tree (directory.child "logs")).andThen fun tree _ =>
      let path := crashLogPath host directory
      (writeAlong host tree path (Text.Utf8.encode (crashLogText fault).toList)).andThen
        fun tree _ => ⟨tree, .ok path⟩

/-- The end of a run with a fault. -/
def crash (host : Host) (console : Console) (fault : Fault) : Ending :=
  match writeCrashLog host fault with
  | ⟨tree, .ok path⟩ =>
      let message := "Unexpected error. Debug log: " ++ path.toText
      .told (.ended faultCode (console.error message) tree fault)
  | ⟨tree, .error other⟩ => .lost tree other

/-- The end of a run with a problem; the wording of failures is given. -/
def stop (host : Host) (console : Console) (wording : Failure → String) : Problem → Ending
  | .failure failure =>
      .told (.ended failure.exitCode (console.error (wording failure)) host.tree failure)
  | .fault fault => crash host console fault

/-- The outcome of a run that ends in a problem. -/
def stopped (host : Host) (console : Console) (wording : Failure → String) (problem : Problem) :
    Except Fault Outcome :=
  (stop host console wording problem).outcome

/-- The console of a host before a command line was read. -/
def startingConsole (host : Host) : Console := .initial (.ofHost host)

/-- The console that a command starts with. -/
def commandConsole (host : Host) (choices : OutputChoices) : Console :=
  let terminal := Terminal.ofHost host
  let manager := Manager.create terminal choices.layout choices.colourless choices.quiet
    choices.verbose
  ((Console.initial terminal).install manager).installHandler manager

/-! ## Inspection -/

/-- The description that a document gives. -/
def describe (host : Host) (source : String) : Logged Api.Spec := do
  let document ← Document.load host source
  Api.extract document

/-- The wording of a failure to load a document for inspection. -/
def inspectionWording (failure : Failure) : String := "Failed to load spec: " ++ failure.message

/-- The JSON forms of what an inspection shows. -/
def subjectJson (spec : Api.Spec) : Subject → Except Fault (List Value)
  | .operations => spec.operations.mapM Api.Operation.toJson
  | .definitions => spec.definitions.mapM Api.Definition.toJson

/-- The table of what an inspection shows. -/
def subjectTable (spec : Api.Spec) : Subject → Except Fault Table
  | .operations => Api.operationTable spec
  | .definitions => .ok (Api.definitionTable spec)

/-- Show what a description holds. -/
def showSubject (layout : Layout) (spec : Api.Spec) (subject : Subject) : Reporting Unit := do
  if layout = .json then
    let values ← Reporting.ofResult ((subjectJson spec subject).mapError Problem.fault)
    let text ← Reporting.ofResult ((Json.indented (.list values)).mapError Problem.fault)
    Reporting.write (Console.writeLine text)
  else
    let table ← Reporting.ofResult ((subjectTable spec subject).mapError Problem.fault)
    Reporting.write (Console.printTable table)

/-- Load a document and show what it describes. -/
def inspection (host : Host) (layout : Layout) (subject : Subject) (source : String) :
    Reporting Unit := do
  let spec ← Reporting.ofLogged (describe host source)
  showSubject layout spec subject

/-- Carry out an inspection. -/
def inspect (host : Host) (choices : OutputChoices) (subject : Subject) (source : String) :
    Ending :=
  let console := commandConsole host choices
  match (inspection host console.manager.layout subject source).perform console with
  | (.ok _, after) => .told (.done after host.tree)
  | (.error problem, after) => stop host after inspectionWording problem

/-! ## Generation -/

/-- The files of a client and what they were made from. -/
structure Generated where
  /-- The description. -/
  spec : Api.Spec
  /-- The files. -/
  files : List Client.File

/-- The report of how much a description holds. -/
def extractedMessage (spec : Api.Spec) : String :=
  "Extracted " ++ toString spec.definitions.length ++ " definitions, " ++
    toString spec.operations.length ++ " operations"

/-- Make the files of a client; nothing is written to the tree. -/
def generated (host : Host) (generation : Generation) : Reporting Generated := do
  let options ← Reporting.ofResult
    (Options.resolve host generation.entries (generation.config.map Path.ofText))
  let settings ← Reporting.ofResult (options.settings host)
  Reporting.write (Console.debug ("Options: " ++ options.toFields.quoted))
  let spec ← Reporting.ofLogged (describe host generation.source)
  Reporting.write (Console.debug (extractedMessage spec))
  let files ← Reporting.ofLogged (Client.files settings (Path.ofText options.dist) spec)
  pure ⟨spec, files⟩

/-- The row of a file in the list of a dry run. -/
def fileRow (file : Client.File) : List String :=
  [file.path.toText, toString file.octets.length]

/-- The list of a dry run. -/
def fileTable (result : Generated) : Table :=
  ⟨some (result.spec.info.title ++ " -- " ++ toString result.files.length ++ " files (dry run)"),
    ["File", "Bytes"], result.files.map fileRow⟩

/-- The report that all files are written. -/
def generatedMessage (result : Generated) : String :=
  "Generated " ++ toString result.files.length ++ " files (" ++
    toString result.spec.definitions.length ++ " definitions, " ++
    toString result.spec.operations.length ++ " operations)"

/-- The announcement of a target. -/
def announcement (target : Path) : String := "Generate: " ++ target.toText

/-- Announce targets. -/
def announce (targets : List Path) (console : Console) : Console :=
  targets.foldl (fun done target => done.info (announcement target)) console

/-- Write the files of a client. -/
def writeClient (host : Host) (console : Console) (result : Generated) : Ending :=
  let written := Client.writeFiles host.directory host.tree result.files
  let announced := announce written.announced console
  match written.result with
  | .ok _ => .told (.done (announced.success (generatedMessage result)) written.tree)
  | .error problem => stop { host with tree := written.tree } announced Failure.message problem

/-- Carry out a generation. -/
def generate (host : Host) (choices : OutputChoices) (generation : Generation) : Ending :=
  match (generated host generation).perform (commandConsole host choices) with
  | (.error problem, after) => stop host after Failure.message problem
  | (.ok result, after) =>
      if generation.dryRun then .told (.done (after.printTable (fileTable result)) host.tree)
      else writeClient host after result

/-! ## All requests -/

/-- The line that tells the version. -/
def versionLine : String := Program.name ++ " " ++ Program.version ++ "\n"

/-- The exit code of a command line that cannot be carried out. -/
def usageCode : Int := 2

/-- The end of a run that carries out a request. -/
def ending (host : Host) : Request → Ending
  | .version => .told { Outcome.silent host 0 with out := versionLine }
  | .help asked =>
      .told { Outcome.silent host (if asked then 0 else usageCode) with out := helpPage }
  | .rejected complaint =>
      .told { Outcome.silent host usageCode with err := complaint.report host }
  | .inspect choices subject source => inspect host choices subject source
  | .generate choices generation => generate host choices generation

/-- Carry out a request. -/
def carryOut (host : Host) (request : Request) : Except Fault Outcome :=
  (ending host request).outcome

/-- Carry out a command line. -/
def run (host : Host) (arguments : List String) : Except Fault Outcome :=
  carryOut host (.ofArguments arguments)

end ClientGen.CommandLine
