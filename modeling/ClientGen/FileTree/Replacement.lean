import ClientGen.FileTree.Access

/-!
# Replacing files

A file gets new content through a temporary file in the same directory, so that no reader ever sees
half of it: the temporary file is written with private permissions, gets the permissions of the
file that it replaces, and is renamed. A replacement that ends early removes the temporary file.
What ends it may be the tree, or a mishap that the tree does not show, such as a disk without space.
-/

namespace ClientGen.FileTree

/-! ## Conditions -/

/-- The permissions that files usually do not get when they are new. -/
def standardUmask : Nat := 0o022

/-- The permissions of a new file: reading and writing for all, less those of a mask. -/
def newMode (umask : Nat) : Nat := 0o666 &&& (0o777 ^^^ umask)

/-- The usual permissions of a new file. -/
def standardMode : Nat := newMode standardUmask

/-- Why a replacement ends early. -/
inductive Obstacle where
  /-- The file system refuses an access. -/
  | refusal (refusal : Refusal)
  /-- Anything else, such as content that has no octets. -/
  | fault (fault : Fault)
  deriving DecidableEq, Repr

/-- The stages of a replacement. -/
inductive Stage where
  /-- Making the directories above the target. -/
  | directories
  /-- Looking up the permissions of the target. -/
  | inspection
  /-- Creating the temporary file. -/
  | creation
  /-- Writing the content to the temporary file. -/
  | content
  /-- Giving the temporary file its permissions. -/
  | permissions
  /-- Moving the temporary file to the target. -/
  | renaming
  deriving DecidableEq, Repr

/-- Something that the tree does not show and that ends a replacement. -/
structure Mishap where
  /-- When it strikes. -/
  stage : Stage
  /-- How many names of the way, or octets of the content, were dealt with before. -/
  progress : Nat
  /-- What it is. -/
  obstacle : Obstacle
  deriving DecidableEq, Repr

/-- What replacements depend on besides the tree. -/
structure Conditions where
  /-- The permissions that new files do not get. -/
  umask : Nat
  /-- The mishap of each replacement, if there is one, counted from zero. -/
  mishaps : Nat → Option Mishap

namespace Conditions

/-- The usual permissions, and no mishaps. -/
def ordinary : Conditions := ⟨standardUmask, fun _ => none⟩

/-- The conditions after the first replacement. -/
def later (conditions : Conditions) : Conditions :=
  ⟨conditions.umask, fun number => conditions.mishaps (number + 1)⟩

/-- The mishap that strikes at a stage of the first replacement. -/
def strike? (conditions : Conditions) (stage : Stage) : Option Mishap :=
  (conditions.mishaps 0).filter fun mishap => mishap.stage = stage

end Conditions

/-- The outcome of a replacement: the tree after it, and why it ended early if it did. -/
structure Replaced where
  /-- The tree after the replacement. -/
  tree : FileTree
  /-- Why the replacement ended early. -/
  obstacle : Option Obstacle
  deriving DecidableEq, Repr

/-- The outcome of a replacement that a change completes. -/
def Replaced.ofChange (change : Change) : Replaced := ⟨change.tree, change.refusal.map .refusal⟩

/-! ## Temporary files -/

/-- The permissions that keep a file to its owner. -/
def privateMode : Nat := 0o600

/-- The last name of a place. -/
def lastName (place : Place) : String := place.getLast?.getD ""

/-- A name for a temporary file beside the file with a name. -/
def temporaryName (name : String) (number : Nat) : String :=
  "." ++ name ++ "." ++ Text.decimalPadded 8 number ++ ".tmp"

/-- The place of a temporary file beside a place. -/
def temporaryPlace (place : Place) (number : Nat) : Place :=
  place.dropLast ++ [temporaryName (lastName place) number]

/-- Whether a file at a place or a temporary file beside it is out of reach, its name or its place
being too long. The first temporary file stands for all of them. -/
def isOutOfReach (place : Place) : Bool :=
  let temporary := temporaryPlace place 0
  isLongPlace place || isLongName (lastName place) || isLongPlace temporary ||
    isLongName (lastName temporary)

/-- A number whose temporary file beside a place does not exist yet. -/
def freshNumber? (tree : FileTree) (place : Place) : Option Nat :=
  (List.range (tree.entries.length + 1)).find? fun number =>
    (tree.find? (temporaryPlace place number)).isNone

/-! ## Replacing -/

/-- The permissions that a replaced file keeps or a new one gets. -/
def modeFor (tree : FileTree) (umask : Nat) (place : Place) : Nat :=
  match tree.find? place with
  | some (.file mode _) => mode
  | _ => newMode umask

/-- Move the file at a place to another place that has no directory. -/
def rename (tree : FileTree) (source target : Place) : Change :=
  match tree.find? source with
  | none => ⟨tree, some .missing⟩
  | some entry =>
      if tree.isDirectory target then ⟨tree, some .isADirectory⟩
      else ⟨(tree.erase source).put target entry, none⟩

/-- Write a file where it stands, keeping its permissions if it exists. -/
def writeAt (tree : FileTree) (place : Place) (octets : List UInt8) : Change :=
  if tree.isDirectory place then ⟨tree, some .isADirectory⟩
  else ⟨tree.put place (.file (modeFor tree standardUmask place) octets), none⟩

/-- Write a temporary file, give it its permissions and move it to its target. -/
def moveThrough (tree : FileTree) (conditions : Conditions) (temporary target : Place)
    (mode : Nat) (octets : List UInt8) : Replaced :=
  match conditions.strike? .content with
  | some found =>
      ⟨tree.put temporary (.file privateMode (octets.take found.progress)), some found.obstacle⟩
  | none =>
      let written := tree.put temporary (.file privateMode octets)
      match conditions.strike? .permissions with
      | some found => ⟨written, some found.obstacle⟩
      | none =>
          let permitted := written.put temporary (.file mode octets)
          match conditions.strike? .renaming with
          | some found => ⟨permitted, some found.obstacle⟩
          | none => .ofChange (permitted.rename temporary target)

/-- Write a temporary file and move it to its target. Whatever comes in between, the temporary file
is removed; its removal is not refused. -/
def replaceThrough (tree : FileTree) (conditions : Conditions) (temporary target : Place)
    (mode : Nat) (octets : List UInt8) : Replaced :=
  match tree.moveThrough conditions temporary target mode octets with
  | ⟨moved, none⟩ => ⟨moved, none⟩
  | ⟨unfinished, some obstacle⟩ => ⟨unfinished.erase temporary, some obstacle⟩

/-- Give the file at a place its content; its directory exists. -/
def replaceIn (tree : FileTree) (conditions : Conditions) (place : Place)
    (octets : List UInt8) : Replaced :=
  match conditions.strike? .inspection with
  | some found => ⟨tree, some found.obstacle⟩
  | none =>
      match tree.freshNumber? place with
      | none => ⟨tree, some (.refusal .alreadyExists)⟩
      | some number =>
          if isOutOfReach place then ⟨tree, some (.refusal .longName)⟩
          else
            match conditions.strike? .creation with
            | some found => ⟨tree, some found.obstacle⟩
            | none =>
                tree.replaceThrough conditions (temporaryPlace place number) place
                  (tree.modeFor conditions.umask place) octets

/-- Give the file at a place its content, making the directories above it first. -/
def replace (tree : FileTree) (conditions : Conditions) (place : Place)
    (octets : List UInt8) : Replaced :=
  match conditions.strike? .directories with
  | some found =>
      ⟨(tree.makePath [] ⟨"/", place.dropLast.take found.progress⟩).tree, some found.obstacle⟩
  | none =>
      match tree.makePath [] ⟨"/", place.dropLast⟩ with
      | ⟨made, some refusal⟩ => ⟨made, some (.refusal refusal)⟩
      | ⟨made, none⟩ => made.replaceIn conditions place octets

end ClientGen.FileTree
