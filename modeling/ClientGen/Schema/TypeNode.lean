import ClientGen.Value.Basic

/-!
# Type nodes

The shape of data that a schema describes, free of any target language. A named definition is only
referred to, so that the tree stays finite for recursive definitions. Each node says whether it is
required where it stands.
-/

namespace ClientGen

/-- Kinds of scalar values. -/
inductive ScalarKind where
  /-- Text. -/
  | string
  /-- Numbers. -/
  | number
  /-- Truth values. -/
  | boolean
  /-- Any values. -/
  | any
  deriving DecidableEq, Repr, Inhabited

/-- The name of a scalar kind. -/
def ScalarKind.name : ScalarKind → String
  | .string => "string"
  | .number => "number"
  | .boolean => "boolean"
  | .any => "any"

/-- The shape of a piece of data. -/
inductive TypeNode where
  /-- A scalar, restricted to some literals when there are any. -/
  | scalar (required : Bool) (kind : ScalarKind) (literals : Option (List Value))
  /-- A sequence of items of one shape. -/
  | array (required : Bool) (items : TypeNode)
  /-- Named properties in order, together with those of the named bases. -/
  | object (required : Bool) (properties : List (String × TypeNode)) (bases : List String)
  /-- A definition by its name. -/
  | reference (required : Bool) (name : String)
  /-- No known shape. -/
  | empty (required : Bool)
  deriving Repr, Inhabited

namespace TypeNode

mutual

/-- Decide equality of two nodes. -/
def decEq : (a b : TypeNode) → Decidable (a = b)
  | .scalar r k l, .scalar r' k' l' =>
      if h : r = r' ∧ k = k' ∧ l = l' then .isTrue (by simp [h]) else .isFalse (by simpa using h)
  | .array r a, .array r' b =>
      match decEq a b with
      | .isTrue h => if g : r = r' then .isTrue (h ▸ g ▸ rfl) else .isFalse (by simp [g])
      | .isFalse h => .isFalse (by simp [h])
  | .object r ps bs, .object r' ps' bs' =>
      match decEqProperties ps ps' with
      | .isTrue h =>
          if g : r = r' ∧ bs = bs' then .isTrue (by simp [h, g])
          else .isFalse (by simp only [object.injEq]; exact fun e => g ⟨e.1, e.2.2⟩)
      | .isFalse h => .isFalse (by simp [h])
  | .reference r n, .reference r' n' =>
      if h : r = r' ∧ n = n' then .isTrue (by simp [h]) else .isFalse (by simpa using h)
  | .empty r, .empty r' => if h : r = r' then .isTrue (h ▸ rfl) else .isFalse (by simp [h])
  | .scalar .., .array .. | .scalar .., .object .. | .scalar .., .reference ..
  | .scalar .., .empty .. | .array .., .scalar .. | .array .., .object ..
  | .array .., .reference .. | .array .., .empty .. | .object .., .scalar ..
  | .object .., .array .. | .object .., .reference .. | .object .., .empty ..
  | .reference .., .scalar .. | .reference .., .array .. | .reference .., .object ..
  | .reference .., .empty .. | .empty .., .scalar .. | .empty .., .array ..
  | .empty .., .object .. | .empty .., .reference .. => .isFalse nofun

/-- Decide equality of two lists of properties. -/
def decEqProperties : (ps qs : List (String × TypeNode)) → Decidable (ps = qs)
  | [], [] => .isTrue rfl
  | [], _ :: _ | _ :: _, [] => .isFalse nofun
  | (n, a) :: ps, (m, b) :: qs =>
      match decEq a b, decEqProperties ps qs with
      | .isTrue h, .isTrue g =>
          if i : n = m then .isTrue (h ▸ g ▸ i ▸ rfl) else .isFalse (by simp [i])
      | .isFalse h, _ => .isFalse (by simp [h])
      | _, .isFalse h => .isFalse (by simp [h])

end

instance : DecidableEq TypeNode := decEq

/-- Whether the node is required where it stands. -/
def required : TypeNode → Bool
  | .scalar required _ _ => required
  | .array required _ => required
  | .object required _ _ => required
  | .reference required _ => required
  | .empty required => required

/-- The same shape with another requirement. -/
def withRequired (required : Bool) : TypeNode → TypeNode
  | .scalar _ kind literals => .scalar required kind literals
  | .array _ items => .array required items
  | .object _ properties bases => .object required properties bases
  | .reference _ name => .reference required name
  | .empty _ => .empty required

/-- The name of the node's kind. -/
def kindName : TypeNode → String
  | .scalar .. => "primitive"
  | .array .. => "array"
  | .object .. => "object"
  | .reference .. => "reference"
  | .empty .. => "empty"

/-- The properties of an object, none for other nodes. -/
def properties : TypeNode → List (String × TypeNode)
  | .object _ properties _ => properties
  | _ => []

/-- The bases of an object, none for other nodes. -/
def bases : TypeNode → List String
  | .object _ _ bases => bases
  | _ => []

@[simp] theorem required_withRequired (required : Bool) (node : TypeNode) :
    (node.withRequired required).required = required := by
  cases node <;> rfl

@[simp] theorem withRequired_withRequired (first second : Bool) (node : TypeNode) :
    (node.withRequired first).withRequired second = node.withRequired second := by
  cases node <;> rfl

/-! ## Names in order -/

/-- Set the node of a property; a new name goes to the end, a known one keeps its place. -/
def putProperty (name : String) (node : TypeNode) :
    List (String × TypeNode) → List (String × TypeNode)
  | [] => [(name, node)]
  | (other, old) :: rest =>
      if other = name then (other, node) :: rest else (other, old) :: putProperty name node rest

/-- Set several properties one after the other. -/
def putProperties (properties new : List (String × TypeNode)) : List (String × TypeNode) :=
  new.foldl (fun done property => putProperty property.1 property.2 done) properties

/-- Append a name that is not there yet. -/
def addName (names : List String) (name : String) : List String :=
  if name ∈ names then names else names ++ [name]

/-- Append the names that are not there yet, in order. -/
def addNames (names new : List String) : List String := new.foldl addName names

/-! ## References -/

mutual

/-- Every definition name that the node mentions, in order, repetitions included. -/
def mentions : TypeNode → List String
  | .reference _ name => [name]
  | .array _ items => mentions items
  | .object _ properties bases => bases ++ mentionsOfProperties properties
  | .scalar .. | .empty .. => []

/-- The mentions of properties, one property after the other. -/
def mentionsOfProperties : List (String × TypeNode) → List String
  | [] => []
  | (_, node) :: rest => mentions node ++ mentionsOfProperties rest

end

/-- The definition names that the node refers to, in order of first mention. -/
def references (node : TypeNode) : List String := addNames [] node.mentions

end TypeNode

end ClientGen
