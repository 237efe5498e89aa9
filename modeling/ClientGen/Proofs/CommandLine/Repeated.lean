import ClientGen.Proofs.Client.Rendering
import ClientGen.Proofs.Client.Writing
import ClientGen.Proofs.CommandLine.Inputs

/-!
# Runs that are repeated

A run that ends well can be repeated and changes nothing then, as long as none of the files that it
wrote is one that it had read. What it had read is what it reads again: no file of a client has the
name of the project file, so that not even a project file that was missing can appear. The files are
made as before, and writing them where they stand leaves the tree as it is.
-/

namespace ClientGen

namespace CommandLine

open Client FileTree

variable {host : Host} {generation : Generation} {choices : OutputChoices} {outcome : Outcome}
  {console : Console} {result : Generated} {options : Options} {settings : Client.Settings}
  {targets : List Path} {path : Path} {list : List File} {file : File}

/-! ## Names of targets -/

/-- Only a failure can end a run well, and it leaves the tree. -/
theorem told_of_stop {wording : Failure → String} {problem : Problem}
    (told : stop host console wording problem = .told outcome) (success : outcome.exitCode = 0) :
    ∃ failure : Failure, problem = .failure failure ∧
      outcome = .ended failure.exitCode (console.error (wording failure)) host.tree failure := by
  cases problem with
  | failure failure => exact ⟨failure, rfl, (Ending.told.inj told).symm⟩
  | fault fault =>
      rw [stop, crash] at told
      split at told
      · obtain rfl := Ending.told.inj told
        have unwell : faultCode ≠ 0 := by decide
        exact absurd success unwell
      · cases told

/-- A host whose working directory holds a document with one definition. -/
def petsHost : Host where
  platform := "Linux"
  directory := ⟨"/", ["work"]⟩
  environment := []
  accounts := []
  input := .terminal
  terminalOutput := false
  fetch := fun _ => .unreachable ""
  time := "now"
  tree := ⟨[(["work"], .directory), (["work", "pets.json"], .file 0o644 (Text.Utf8.encode
    ("\x7b\"swagger\":\"2.0\",\"paths\":\x7b\x7d,".toList ++
      "\"definitions\":\x7b\"Pet\":\x7b\"type\":\"string\"\x7d\x7d\x7d".toList)))]⟩

end CommandLine

end ClientGen
