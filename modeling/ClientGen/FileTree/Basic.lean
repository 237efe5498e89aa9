/-!
# File trees

Directories and files by their places. A place is the list of names that lead to it from the root;
the root is a directory of every tree. What a tree holds is told by `find?` alone: `put` and `erase`
change it at one place and nowhere else.
-/

namespace ClientGen

/-- The names that lead from the root to a place. -/
abbrev Place := List String

/-- What stands at a place. -/
inductive Entry where
  /-- A directory. -/
  | directory
  /-- A file with its permission bits and its content. -/
  | file (mode : Nat) (octets : List UInt8)
  deriving DecidableEq, Repr, Inhabited

/-- Whether an entry is a file. -/
def Entry.isFile : Entry → Bool
  | .directory => false
  | .file _ _ => true

/-- A tree of directories and files. -/
structure FileTree where
  /-- What stands below the root. -/
  entries : List (Place × Entry)
  deriving DecidableEq, Repr, Inhabited

namespace FileTree

/-- A tree with nothing below the root. -/
def empty : FileTree := ⟨[]⟩

/-- The entry of a place in a list of entries. -/
def entryAt (place : Place) : List (Place × Entry) → Option Entry
  | [] => none
  | (other, entry) :: rest => if other = place then some entry else entryAt place rest

/-- What stands at a place. -/
def find? (tree : FileTree) (place : Place) : Option Entry :=
  if place = [] then some .directory else entryAt place tree.entries

/-- Set the entry of a place in a list of entries. -/
def putEntry (place : Place) (entry : Entry) : List (Place × Entry) → List (Place × Entry)
  | [] => [(place, entry)]
  | (other, old) :: rest =>
      if other = place then (other, entry) :: rest else (other, old) :: putEntry place entry rest

/-- Set what stands at a place. -/
def put (tree : FileTree) (place : Place) (entry : Entry) : FileTree :=
  ⟨putEntry place entry tree.entries⟩

/-- Remove what stands at a place. -/
def erase (tree : FileTree) (place : Place) : FileTree :=
  ⟨tree.entries.filter fun entry => entry.1 ≠ place⟩

/-- Whether there is a directory at a place. -/
def isDirectory (tree : FileTree) (place : Place) : Bool := tree.find? place = some .directory

/-! ## The view after a change -/

@[simp] theorem find?_root (tree : FileTree) : tree.find? [] = some .directory := by
  simp [find?]

theorem entryAt_putEntry (place other : Place) (entry : Entry) (entries : List (Place × Entry)) :
    entryAt other (putEntry place entry entries) =
      if other = place then some entry else entryAt other entries := by
  induction entries with
  | nil => by_cases same : place = other <;> simp [putEntry, entryAt, same, eq_comm]
  | cons head rest ih =>
      obtain ⟨first, old⟩ := head
      by_cases here : first = place
      · subst here
        by_cases same : first = other
        · simp [putEntry, entryAt, same]
        · simp [putEntry, entryAt, same, Ne.symm same]
      · by_cases there : first = other
        · subst there
          simp [putEntry, entryAt, here]
        · simp [putEntry, entryAt, here, there, ih]

theorem find?_put (tree : FileTree) {place : Place} (below : place ≠ []) (entry : Entry)
    (other : Place) :
    (tree.put place entry).find? other = if other = place then some entry else tree.find? other := by
  by_cases root : other = []
  · subst root
    simp [Ne.symm below]
  · simp [find?, root, put, entryAt_putEntry]

end FileTree

end ClientGen
