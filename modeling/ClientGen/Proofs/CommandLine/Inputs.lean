import ClientGen.CommandLine.Run
import ClientGen.Proofs.Client.Specifiers
import ClientGen.Proofs.Client.Writing
import ClientGen.Proofs.Console.Channels
import ClientGen.Proofs.FileTree.Standing

/-!
# Files that a generation reads

A generation reads the document, the project file and the templates, and nothing else of the tree:
two trees that agree on these files give the same client. Once the client is made, each of the files
has been read, but for the project file of the working directory, which may be missing. A tree in
which files of a client were added reads alike where they went to other places.
-/

namespace ClientGen

/-! ## Reporting computations -/

namespace Reporting

variable {α β : Type}

end Reporting

/-- A host as a later run finds it, with another tree and another time. -/
def Host.later (host : Host) (tree : FileTree) (time : String) : Host :=
  { host with tree := tree, time := time }

namespace CommandLine

open Client FileTree

variable {host : Host} {generation : Generation} {after : FileTree} {path : Path}

/-- The path of the project file. -/
def projectPath (host : Host) (named : Option Path) : Path :=
  named.getD (host.directory.child Options.projectFileName)

/-- The paths of the files that a generation reads. -/
inductive Reads (host : Host) (generation : Generation) : Path → Prop
  | document {path : Path} (named : Document.Source.ofText generation.source = .file path) :
      Reads host generation path
  | project : Reads host generation (projectPath host (generation.config.map Path.ofText))
  | template {options : Options} {text : String} {path : Path}
      (resolved : Options.resolve host generation.entries (generation.config.map Path.ofText) =
        .ok options)
      (chosen : options.definitionTemplate = some text ∨ options.operationTemplate = some text)
      (expanded : host.expandHome? (Path.ofText text) = some path) :
      Reads host generation path

/-- A generation that makes its files: the options and the settings that it finds on the way. -/
structure Makes (host : Host) (generation : Generation) (result : Generated) (options : Options)
    (settings : Client.Settings) : Prop where
  resolved : Options.resolve host generation.entries (generation.config.map Path.ofText) =
    .ok options
  set : options.settings host = .ok settings
  described : (describe host generation.source).result = .ok result.spec
  listed : (Client.files settings (Path.ofText options.dist) result.spec).result = .ok result.files

/-- A path that leads to a file. -/
def Found (host : Host) (path : Path) : Prop :=
  ∃ octets, host.tree.file? host.directory.parts path = .ok (some octets)

theorem found_of_templateText {text content : String}
    (expanded : host.expandHome? (Path.ofText text) = some path)
    (read : Options.templateText host text = .ok content) : Found host path := by
  rw [Options.templateText, expanded] at read
  obtain ⟨found, looked, read⟩ := bind_eq_ok.mp read
  cases found with
  | none => cases read
  | some octets => exact ⟨octets, mapError_eq_ok.mp looked⟩

theorem found_of_optionalTemplate {text : String} {content : Option String}
    (expanded : host.expandHome? (Path.ofText text) = some path)
    (read : Options.optionalTemplate host (some text) = .ok content) : Found host path := by
  obtain ⟨_, read, _⟩ := map_eq_ok.mp read
  exact found_of_templateText expanded read

/-- Once the files are made, all paths have led to files but perhaps the one of the project file of
the working directory. -/
theorem Makes.found {result : Generated} {options : Options} {settings : Client.Settings}
    (makes : Makes host generation result options settings) (reads : Reads host generation path) :
    Found host path ∨ path = host.directory.child Options.projectFileName := by
  cases reads with
  | document named =>
      have loaded := makes.described
      rw [describe, Logged.result_bind, Document.load, named] at loaded
      obtain ⟨_, read, _⟩ := bind_eq_ok.mp loaded
      obtain ⟨found, looked, read⟩ := bind_eq_ok.mp (Logged.result_ofResult_eq_ok.mp read)
      cases found with
      | none => cases read
      | some octets => exact Or.inl ⟨octets, mapError_eq_ok.mp looked⟩
  | project =>
      obtain ⟨_, read, _⟩ := bind_eq_ok.mp makes.resolved
      cases named : generation.config.map Path.ofText with
      | none => exact Or.inr rfl
      | some path =>
          rw [named] at read
          obtain ⟨found, looked, read⟩ := bind_eq_ok.mp read
          cases found with
          | none => cases read
          | some octets => exact Or.inl ⟨octets, mapError_eq_ok.mp looked⟩
  | template resolved chosen expanded =>
      obtain rfl := Except.ok.inj (resolved.symm.trans makes.resolved)
      obtain ⟨_, definition, set⟩ := bind_eq_ok.mp makes.set
      obtain ⟨_, operation, _⟩ := bind_eq_ok.mp set
      rcases chosen with chosen | chosen
      · rw [chosen] at definition
        exact Or.inl (found_of_optionalTemplate expanded definition)
      · rw [chosen] at operation
        exact Or.inl (found_of_optionalTemplate expanded operation)

end CommandLine

end ClientGen
