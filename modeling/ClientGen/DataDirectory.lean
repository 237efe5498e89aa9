import ClientGen.FileTree.Access
import ClientGen.Host
import ClientGen.Program

/-!
# The data directory

The directory for what the program keeps about its own runs. On Linux and the BSD systems it is
where the environment puts the data of programs, elsewhere a hidden directory of the home directory.
-/

namespace ClientGen.DataDirectory

/-- Whether a system keeps the data of programs in one common directory. -/
def hasCommonDirectory (platform : String) : Bool :=
  platform = "Linux" || Text.startsWith "DSB".toList platform.toList.reverse

/-- The common directory for the data of programs. -/
def commonDirectory? (host : Host) : Option Path :=
  match host.given? "XDG_DATA_HOME" with
  | some directory => some (Path.ofText directory)
  | none => (host.expandHome? (Path.ofText "~")).map fun home =>
      (home.child ".local").child "share"

/-- The path of the data directory; none if there is no home directory. -/
def path? (host : Host) : Option Path :=
  if hasCommonDirectory host.platform then
    (commonDirectory? host).map fun directory => directory.child Program.name
  else (host.expandHome? (Path.ofText "~")).map fun home => home.child ("." ++ Program.name)

/-- Make a directory and those above it. -/
def make (host : Host) (tree : FileTree) (path : Path) : Attempt Unit :=
  .ofChange (tree.makePath host.directory.parts path)

/-- Make the data directory; its path. -/
def prepare (host : Host) : Attempt Path :=
  match path? host with
  | none => ⟨host.tree, .error .foreign⟩
  | some path => (make host host.tree path).andThen fun tree _ => ⟨tree, .ok path⟩

/-- The path of the data directory and the tree in which it exists. -/
def ensure (host : Host) : Except Fault (Path × FileTree) :=
  (prepare host).result.map fun path => (path, (prepare host).tree)

end ClientGen.DataDirectory
