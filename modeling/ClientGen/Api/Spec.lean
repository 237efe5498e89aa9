import ClientGen.Name.Operation
import ClientGen.Schema.TypeNode

/-!
# Interface descriptions

What a generator needs to know of an interface: its definitions and its operations, in the order of
the document.
-/

namespace ClientGen.Api

/-- A named type. -/
structure Definition where
  /-- Its name in the document. -/
  name : String
  /-- Its shape. -/
  schema : TypeNode
  deriving DecidableEq, Repr

/-- One method of one path. -/
structure Operation where
  /-- The name it is called by. -/
  name : String
  /-- Its path, placeholders in braces. -/
  path : String
  /-- Its method. -/
  method : Method
  /-- What it does, in one line. -/
  summary : Option String
  /-- The shape of what it answers. -/
  response : TypeNode
  /-- The parameters in the path. -/
  pathParameters : List (String × TypeNode)
  /-- The parameters in the query. -/
  queryParameters : List (String × TypeNode)
  /-- The shape of its body, when it takes one. -/
  body : Option TypeNode
  deriving DecidableEq, Repr

namespace Operation

/-- The path parameters as one object. -/
def pathNode (operation : Operation) : TypeNode := .object false operation.pathParameters []

/-- The query parameters as one object. -/
def queryNode (operation : Operation) : TypeNode := .object false operation.queryParameters []

/-- Every node of the operation: path, query, body, response. -/
def nodes (operation : Operation) : List TypeNode :=
  [operation.pathNode, operation.queryNode] ++ operation.body.toList ++ [operation.response]

end Operation

/-- General statements of a document about itself. -/
structure Info where
  /-- Its title. -/
  title : String
  /-- The version of the interface. -/
  version : String
  /-- What the interface is for. -/
  description : Option String
  deriving DecidableEq, Repr

/-- An interface description. -/
structure Spec where
  /-- The version of the format. -/
  formatVersion : String
  /-- General statements. -/
  info : Info
  /-- The definitions, in document order. -/
  definitions : List Definition
  /-- The operations, in document order. -/
  operations : List Operation
  deriving DecidableEq, Repr

end ClientGen.Api
