import ClientGen.Failure
import ClientGen.FileTree.Basic
import ClientGen.Path
import ClientGen.Text.Utf8

/-!
# Access to a file tree

Paths are followed name by name: all but the last name have to lead to directories, and double
points lead back to the directory above. Directories are made along a path as far as it leads.
-/

namespace ClientGen

/-- Why a file tree refuses an access. -/
inductive Refusal where
  /-- Nothing stands there. -/
  | missing
  /-- The path leads through a file. -/
  | notADirectory
  /-- A file stands where a directory is to be made. -/
  | alreadyExists
  /-- A directory stands where a file is to be. -/
  | isADirectory
  /-- A name on the path or the path itself is too long. -/
  | longName
  /-- A reason that the tree does not show, in the words of the system. -/
  | other (detail : String)
  deriving DecidableEq, Repr

namespace Refusal

/-- The wording of a refusal. -/
def message : Refusal → String
  | .missing => "No such file or directory"
  | .notADirectory => "Not a directory"
  | .alreadyExists => "File exists"
  | .isADirectory => "Is a directory"
  | .longName => "File name too long"
  | .other detail => detail

/-- The fault that a refusal is, where no failure is made of it. -/
def fault : Refusal → Fault
  | .missing | .longName | .other _ => .refusedPath
  | .notADirectory => .notADirectory
  | .alreadyExists => .alreadyExists
  | .isADirectory => .isADirectory

end Refusal

namespace FileTree

/-- The most octets that a name may have. -/
def nameLimit : Nat := 255

/-- The number of octets of a name. -/
def octetCount (name : String) : Nat := (Text.Utf8.encode name.toList).length

/-- Whether a name is too long to stand in a tree. -/
def isLongName (name : String) : Bool := nameLimit < octetCount name

/-- The most octets that a path may have. -/
def pathLimit : Nat := 4095

/-- Whether a path is too long to be followed. -/
def isLongPath (path : Path) : Bool := pathLimit < octetCount path.toText

/-- Whether the path from the root to a place is too long to be followed. -/
def isLongPlace (place : Place) : Bool := isLongPath ⟨"/", place⟩

/-- The place that a name leads to. -/
def step (place : Place) (name : String) : Place :=
  if name = ".." then place.dropLast else place ++ [name]

/-- Follow names from a place. -/
def walk (tree : FileTree) : Place → List String → Except Refusal Place
  | place, [] => .ok place
  | place, name :: rest =>
      match tree.find? place with
      | none => .error .missing
      | some (.file _ _) => .error .notADirectory
      | some .directory =>
          if isLongName name then .error .longName else walk tree (step place name) rest

/-- Where a path starts: at the root or in a directory. -/
def origin (directory : Place) (path : Path) : Place := if path.isAbsolute then [] else directory

/-- What a path leads to from a directory. -/
def entry (tree : FileTree) (directory : Place) (path : Path) : Except Refusal Entry := do
  if isLongPath path then .error .longName
  else
    let place ← walk tree (origin directory path) path.parts
    match tree.find? place with
    | some found => .ok found
    | none => .error .missing

/-- Whether a path has a null character, which no name can have. -/
def hasNull (path : Path) : Bool := path.parts.any (·.toList.contains '\x00')

/-- The file that a path leads to, none if there is none; a name that is too long is an error. -/
def file? (tree : FileTree) (directory : Place) (path : Path) :
    Except Fault (Option (List UInt8)) :=
  if hasNull path then .ok none
  else match tree.entry directory path with
    | .ok (.file _ octets) => .ok (some octets)
    | .ok .directory | .error .missing | .error .notADirectory => .ok none
    | .error refusal => .error refusal.fault

/-- The text of a file's content, every line ended by a line feed. -/
def textOf (octets : List UInt8) : Except Fault (List Char) :=
  match Text.Utf8.decode? octets with
  | some text => .ok (Text.unifyLineEnds text)
  | none => .error .undecodable

/-! ## Making directories -/

/-- The outcome of a change: the tree after it, and why it ended early if it did. -/
structure Change where
  /-- The tree after the change. -/
  tree : FileTree
  /-- Why the change ended early. -/
  refusal : Option Refusal
  deriving DecidableEq, Repr

/-- Make the directories along some names that are not there yet. Those made before a refusal
stay. -/
def makeDirectories (tree : FileTree) : Place → List String → Change
  | _, [] => ⟨tree, none⟩
  | place, name :: rest =>
      if isLongName name then ⟨tree, some .longName⟩
      else
        let next := step place name
        match tree.find? next with
        | none => makeDirectories (tree.put next .directory) next rest
        | some .directory => makeDirectories tree next rest
        | some (.file _ _) =>
            ⟨tree, some (if rest.isEmpty then .alreadyExists else .notADirectory)⟩

/-- Make the directory that a path leads to, and those above it. -/
def makePath (tree : FileTree) (directory : Place) (path : Path) : Change :=
  if isLongPath path then ⟨tree, some .longName⟩
  else makeDirectories tree (origin directory path) path.parts

end FileTree

/-! ## Attempts -/

/-- A result, or the fault that ended the computation of it, with the tree that is left. What was
changed before a fault stays. -/
structure Attempt (α : Type) where
  /-- The tree that is left. -/
  tree : FileTree
  /-- The result. -/
  result : Except Fault α

namespace Attempt

/-- Go on with the tree and the result of an attempt; a fault ends both. -/
def andThen {α β : Type} (first : Attempt α) (next : FileTree → α → Attempt β) : Attempt β :=
  match first.result with
  | .error fault => ⟨first.tree, .error fault⟩
  | .ok a => next first.tree a

/-- The attempt of a change: a refusal is a fault. -/
def ofChange (change : FileTree.Change) : Attempt Unit :=
  match change.refusal with
  | none => ⟨change.tree, .ok ()⟩
  | some refusal => ⟨change.tree, .error refusal.fault⟩

end Attempt

end ClientGen
