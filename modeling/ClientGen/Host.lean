import ClientGen.FileTree.Basic
import ClientGen.Path

/-!
# Hosts

All that a run can learn from its surroundings: the file tree, the environment, standard input, the
network, the terminal and the clock.
-/

namespace ClientGen

/-- What standard input offers. -/
inductive Input where
  /-- A person at a terminal. -/
  | terminal
  /-- An error, in the words of the system. -/
  | broken (detail : String)
  /-- Octets that are no text. -/
  | undecodable
  /-- A text. -/
  | text (content : String)
  deriving DecidableEq, Repr, Inhabited

/-- What asking for an address comes to. -/
inductive Answer where
  /-- A response with its status, its content type and its content. -/
  | response (status : Int) (contentType : String) (octets : List UInt8)
  /-- No connection, in the words of the network. -/
  | unreachable (detail : String)
  /-- The address is none that can be asked. -/
  | invalidAddress
  deriving DecidableEq, Repr, Inhabited

/-- The surroundings of a run. -/
structure Host where
  /-- The name of the operating system. -/
  platform : String
  /-- The working directory, an absolute path without double points. -/
  directory : Path
  /-- The environment variables. -/
  environment : List (String × String)
  /-- The home directories of the accounts; the first account runs the program. -/
  accounts : List (String × String)
  /-- Standard input. -/
  input : Input
  /-- Whether standard output is a terminal. -/
  terminalOutput : Bool
  /-- The network. -/
  fetch : String → Answer
  /-- The time, as file names spell it. -/
  time : String
  /-- The file tree. -/
  tree : FileTree
  /-- Why the content of the file at a path is kept back, in the words of the system; for most files
  it is not. -/
  withheld? : Path → Option String := fun _ => none

namespace Host

/-- The value of an environment variable. -/
def valueOf? (host : Host) (name : String) : Option String := host.environment.lookup name

/-- The value of an environment variable that is set to some text. -/
def given? (host : Host) (name : String) : Option String :=
  (host.valueOf? name).filter fun value => !value.isEmpty

/-- A home directory without slashes at its end; the root where nothing else is left. -/
def homeText (text : String) : String :=
  let trimmed := Text.trimEndWhile (· = '/') text.toList
  if trimmed.isEmpty then "/" else String.ofList trimmed

/-- The home directory of the person who runs the program. -/
def home? (host : Host) : Option String :=
  match host.valueOf? "HOME" with
  | some value => some (homeText value)
  | none => host.accounts.head?.map fun account => homeText account.2

/-- The home directory that a name with a tilde in front stands for. -/
def homeOf? (host : Host) (name : List Char) : Option String :=
  if name.isEmpty then host.home?
  else (host.accounts.lookup (String.ofList name)).map homeText

/-- A path with the home directory in place of a leading tilde; none if there is no such
directory. -/
def expandHome? (host : Host) (path : Path) : Option Path :=
  match path.root.isEmpty, path.parts with
  | true, first :: rest =>
      match first.toList with
      | '~' :: name =>
          match host.homeOf? name with
          | some home =>
              if home.toList.head? = some '~' then none
              else
                let base := Path.ofText home
                some ⟨base.root, base.parts ++ rest⟩
          | none => none
      | _ => some path
  | _, _ => some path

end Host

end ClientGen
