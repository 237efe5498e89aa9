import ClientGen.Text.Basic

/-!
# Paths

File paths as a root and a list of names. Empty names and single points are left out when a path
is read; double points stay, since what they mean depends on the directories that exist.
-/

namespace ClientGen

/-- A file path. -/
structure Path where
  /-- The slashes that an absolute path begins with; none for a relative path. -/
  root : String
  /-- The names below the root. -/
  parts : List String
  deriving DecidableEq, Repr, Inhabited

namespace Path

/-- The root of a path with some slashes in front: two of them are kept, more count as one. -/
def rootOf : (slashes : Nat) → String
  | 0 => ""
  | 2 => "//"
  | _ => "/"

/-- Whether a name is a step on a path: neither empty nor a single point. -/
def isStep (name : List Char) : Bool := !name.isEmpty && name ≠ ['.']

/-- The path that a text spells. -/
def ofText (text : String) : Path :=
  let chars := text.toList
  let slashes := (chars.takeWhile (· = '/')).length
  ⟨rootOf slashes, ((Text.splitOn '/' chars).filter isStep).map String.ofList⟩

/-- Whether a path starts at a root. -/
def isAbsolute (path : Path) : Bool := !path.root.isEmpty

/-- The text of a path; a single point for the empty relative one. -/
def toText (path : Path) : String :=
  if path.root.isEmpty && path.parts.isEmpty then "."
  else path.root ++ Text.joinStrings "/" path.parts

/-- A path below another one; an absolute path stays as it is. -/
def append (directory path : Path) : Path :=
  if path.isAbsolute then path else ⟨directory.root, directory.parts ++ path.parts⟩

instance : HAppend Path Path Path := ⟨append⟩

/-- A path below a directory, from its text. -/
def child (directory : Path) (name : String) : Path := directory.append (ofText name)

/-- The last name of a path. -/
def name (path : Path) : String := path.parts.getLast?.getD ""

/-- The path without its last name. -/
def parent (path : Path) : Path := ⟨path.root, path.parts.dropLast⟩

/-- The part of the last name from its last point on, unless the point starts or ends the name. -/
def suffix (path : Path) : String :=
  let chars := path.name.toList
  let last := Text.afterLast '.' chars
  if last.isEmpty || chars.length ≤ last.length + 1 then "" else "." ++ String.ofList last

/-- Take one step on a path from the root: double points lead back. -/
def stepFrom (done : List String) (name : String) : List String :=
  if name = ".." then done.dropLast else done ++ [name]

/-- The names of an absolute path without double points. -/
def collapsed (path : Path) : List String := path.parts.foldl stepFrom []

/-- An absolute path with a single slash in front and without double points. -/
def normal (path : Path) : Path := ⟨"/", path.collapsed⟩

@[simp] theorem append_of_isAbsolute {directory path : Path} (absolute : path.isAbsolute = true) :
    directory.append path = path := by
  simp [append, absolute]

theorem append_assoc_of_relative {first second third : Path}
    (relative : second.isAbsolute = false) :
    (first.append second).append third = first.append (second.append third) := by
  by_cases absolute : third.isAbsolute = true
  · simp [append, absolute]
  · have : (⟨second.root, second.parts ++ third.parts⟩ : Path).isAbsolute = false := relative
    simp [append, absolute, relative, this, List.append_assoc]

end Path

end ClientGen
