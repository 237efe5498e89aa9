import ClientGen.CommandLine.Run

/-!
# The program

Gathers what a run can learn from the machine, carries the run out, and puts what it changed in
place. Only the files that the run asks for are read. There is no network.
-/

namespace ClientGen.Program

/-! ## Gathering -/

/-- The environment variables that a run looks at. -/
def variableNames : List String :=
  ["HOME", "XDG_DATA_HOME", "NO_COLOR", "TERM", "COLUMNS"] ++ Options.variableNames.map Prod.fst

/-- The values of the environment variables that are set. -/
def readVariables : List String → IO (List (String × String))
  | [] => pure []
  | name :: rest => do
      let others ← readVariables rest
      match ← IO.getEnv name with
      | some value => pure ((name, value) :: others)
      | none => pure others

/-- The octets that a stream still has. -/
partial def readOctets (stream : IO.FS.Stream) (before : ByteArray) : IO ByteArray := do
  let octets ← stream.read 4096
  if octets.isEmpty then pure before else readOctets stream (before ++ octets)

/-- What standard input offers. -/
def readInput : IO Input := do
  let stream ← IO.getStdin
  if ← stream.isTty then pure .terminal
  else
    try
      match FileTree.textOf (← readOctets stream .empty).toList with
      | .ok text => pure (.text (String.ofList text))
      | .error _ => pure .undecodable
    catch failure => pure (.broken (toString failure))

/-- A tree with a file put at a place, and the directories above it. -/
def placed (tree : FileTree) (place : Place) (octets : List UInt8) : FileTree :=
  (tree.makeDirectories [] place.dropLast).tree.put place (.file FileTree.standardMode octets)

/-- Add the file that a path leads to, if there is one. -/
def readFile (host : Host) (path : Path) : IO Host := do
  let whole := host.directory.append path
  let place := whole.normal.parts
  try
    let octets ← IO.FS.readBinFile whole.toText
    pure { host with tree := placed host.tree place octets.toList }
  catch failure =>
    match failure with
    | .permissionDenied .. =>
        pure { host with
          tree := placed host.tree place []
          withheld? := fun other =>
            if other = path then some (toString failure) else host.withheld? other }
    | _ => pure host

/-- Add the files that some paths lead to. -/
def readFiles (host : Host) : List Path → IO Host
  | [] => pure host
  | path :: rest => do readFiles (← readFile host path) rest

/-- The machine before any file is read. -/
def bareHost (input : Input) : IO Host := do
  let directory := Path.ofText (toString (← IO.currentDir))
  let output ← IO.getStdout
  pure {
    platform := "Linux"
    directory := directory
    environment := ← readVariables variableNames
    accounts := []
    input := input
    terminalOutput := ← output.isTty
    fetch := fun _ => .unreachable "no network"
    time := toString (← IO.monoMsNow)
    tree := (FileTree.empty.makeDirectories [] directory.parts).tree }

/-- The source of the document that a request names. -/
def sourceText? : CommandLine.Request → Option String
  | .inspect _ _ source => some source
  | .generate _ generation => some generation.source
  | _ => none

/-- The path of the document that a request names. -/
def sourcePath? (request : CommandLine.Request) : Option Path :=
  match (sourceText? request).map Document.Source.ofText with
  | some (.file path) => some path
  | _ => none

/-- The path of the project file of a request. -/
def projectPath? : CommandLine.Request → Option Path
  | .generate _ generation =>
      some (Path.ofText (generation.config.getD Options.projectFileName))
  | _ => none

/-- The paths of the templates of a request. -/
def templatePaths (host : Host) : CommandLine.Request → List Path
  | .generate _ generation =>
      match Options.resolve host generation.entries (generation.config.map Path.ofText) with
      | .ok options =>
          (options.definitionTemplate.toList ++ options.operationTemplate.toList).filterMap
            fun text => host.expandHome? (.ofText text)
      | .error _ => []
  | _ => []

/-- The machine with the files that a request asks for. -/
def hostFor (request : CommandLine.Request) : IO Host := do
  let input ← if sourceText? request = some "-" then readInput else pure (.text "")
  let bare ← bareHost input
  let paths := (sourcePath? request).toList ++ (projectPath? request).toList
  let host ← readFiles bare paths
  readFiles host (templatePaths host request)

/-! ## Putting in place -/

/-- The text of the path of a place. -/
def placeText (place : Place) : String := (Path.mk "/" place).toText

/-- Put one entry in place. -/
def writeEntry (place : Place) : Entry → IO Unit
  | .directory => IO.FS.createDirAll (placeText place)
  | .file _ octets => IO.FS.writeBinFile (placeText place) ⟨octets.toArray⟩

/-- Put in place what a run changed. -/
def writeChanges (before : FileTree) : List (Place × Entry) → IO Unit
  | [] => pure ()
  | (place, entry) :: rest => do
      if before.find? place ≠ some entry then writeEntry place entry
      writeChanges before rest

/-- The exit code as the system takes it. -/
def systemCode (exitCode : Int) : UInt32 := UInt32.ofNat (exitCode % 256).toNat

/-- Show an outcome and put its changes in place. -/
def finish (host : Host) (outcome : CommandLine.Outcome) : IO UInt32 := do
  let output ← IO.getStdout
  let report ← IO.getStderr
  output.putStr outcome.out
  output.flush
  report.putStr outcome.err
  report.flush
  writeChanges host.tree outcome.tree.entries
  pure (systemCode outcome.exitCode)

end ClientGen.Program

open ClientGen in
/-- Carry out a command line. -/
def main (arguments : List String) : IO UInt32 := do
  let request := CommandLine.Request.ofArguments arguments
  let host ← Program.hostFor request
  match CommandLine.ending host request with
  | .told outcome => Program.finish host outcome
  | .lost tree fault => do
      Program.writeChanges host.tree tree.entries
      throw (IO.userError fault.message)
