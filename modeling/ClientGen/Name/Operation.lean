import ClientGen.Name.Case

/-!
# Operation names

An operation that the document does not name is called by its method and its path: each segment
gives its words in Pascal case, and a segment in braces gives them after `By`.
-/

namespace ClientGen

/-- The methods of a path item. -/
inductive Method where
  /-- Read a resource. -/
  | get
  /-- Replace a resource. -/
  | put
  /-- Create a resource. -/
  | post
  /-- Remove a resource. -/
  | delete
  /-- Ask for what a resource offers. -/
  | options
  /-- Read the header of a resource. -/
  | head
  /-- Change a resource in part. -/
  | patch
  deriving DecidableEq, Repr, Inhabited

namespace Method

/-- All methods. -/
def all : List Method := [.get, .put, .post, .delete, .options, .head, .patch]

/-- The method in small letters. -/
def name : Method → String
  | .get => "get"
  | .put => "put"
  | .post => "post"
  | .delete => "delete"
  | .options => "options"
  | .head => "head"
  | .patch => "patch"

/-- The method in capitals. -/
def verb : Method → String
  | .get => "GET"
  | .put => "PUT"
  | .post => "POST"
  | .delete => "DELETE"
  | .options => "OPTIONS"
  | .head => "HEAD"
  | .patch => "PATCH"

/-- The method with a name in small letters. -/
def ofName? (text : String) : Option Method := all.find? (·.name = text)

@[simp] theorem ofName?_name (method : Method) : ofName? method.name = some method := by
  cases method <;> rfl

end Method

namespace Name

/-- The non-empty segments of a path. -/
def segments (path : List Char) : List (List Char) :=
  (Text.splitOn '/' path).filter fun segment => !segment.isEmpty

/-- What a segment adds to a name: its words, after `By` when it is in braces. -/
def segmentWords (segment : List Char) : List Char :=
  if segment.head? = some '{' ∧ segment.getLast? = some '}' then
    'B' :: 'y' :: pascalChars (segment.drop 1).dropLast
  else pascalChars segment

/-- The part of an operation name that comes from the path. -/
def pathWords (path : List Char) : List Char :=
  match (segments path).flatMap segmentWords with
  | [] => ['R', 'o', 'o', 't']
  | text => text

/-- The name of an operation from a verb in lower case and a path. -/
def operation (verb path : String) : String :=
  verb ++ String.ofList (pathWords path.toList)

/-- The name of an operation from its method and path. -/
def ofMethod (method : Method) (path : String) : String := operation method.name path

end Name

end ClientGen
