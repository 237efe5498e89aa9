import ClientGen.TypeScript.Identifier

/-!
# Path literals

A path with placeholders in braces becomes a template literal that reads each placeholder from an
object. The path is first divided into static text and placeholders; a brace without a partner is
static text.
-/

namespace ClientGen.TypeScript

/-- A part of a path. -/
inductive PathPart where
  /-- Text that stands for itself. -/
  | static (text : List Char)
  /-- A name in braces. -/
  | placeholder (name : List Char)
  deriving DecidableEq, Repr

/-- The grave accent, which delimits template literals. -/
def graveAccent : Char := Char.ofNat 0x60

/-- The parts of a path. `fuel` bounds the number of placeholders. -/
def partsWithin : (fuel : Nat) → List Char → List PathPart
  | _, [] => []
  | 0, text => [.static text]
  | fuel + 1, text =>
      match Text.cutAt? '{' text with
      | none => [.static text]
      | some (before, rest) =>
          match Text.cutAt? '}' rest with
          | none => [.static text]
          | some (name, after) =>
              .static before :: .placeholder name :: partsWithin fuel after

/-- The parts of a path. -/
def pathParts (path : List Char) : List PathPart := partsWithin path.length path

/-- Escape what has a meaning inside a template literal. -/
def escapeStatic (text : List Char) : List Char :=
  text.flatMap fun c =>
    if c = '\\' ∨ c = graveAccent ∨ c = '$' then ['\\', c] else [c]

/-- One part inside a template literal. -/
def renderPart (target : String) (convention : Name.Convention) : PathPart → List Char
  | .static text => escapeStatic text
  | .placeholder name =>
      '$' :: '{' ::
        ((propertyAccess target (String.ofList name) convention).toList ++ ['}'])

/-- The template literal of a path. -/
def pathLiteral (path target : String) (convention : Name.Convention) : String :=
  String.ofList (graveAccent ::
    ((pathParts path.toList).flatMap (renderPart target convention) ++ [graveAccent]))

end ClientGen.TypeScript
