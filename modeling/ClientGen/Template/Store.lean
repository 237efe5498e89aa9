import ClientGen.Template.Datum

/-!
# The store of a template

Everything that can change while a template is rendered stands in the cells of a store. A new cell
gets a place of its own, and a change of one cell leaves the others as they are.
-/

namespace ClientGen.Template

/-- The state of a template that is rendered. -/
structure Store where
  /-- The cells by their places. -/
  cells : Array Cell
  /-- Whether printed and marked text is escaped. -/
  isEscaping : Bool
  /-- The template that takes over at the end. -/
  successor : Option Template
  deriving Inhabited

/-- A store without cells. -/
def Store.empty : Store := ⟨#[], false, none⟩

/-- A computation that may change the store. -/
abbrev Run (α : Type) := StateT Store (Except TemplateFault) α

namespace Run

/-! ## Failing -/

/-- A computation that fails. -/
def stop {α : Type} (problem : TemplateFault) : Run α := fun _ => .error problem

/-- A computation that ends with a fault. -/
def fault {α : Type} (fault : Fault) : Run α := stop (.fault fault)

/-- An operation that is not defined for its operands. -/
def unsupported {α : Type} : Run α := fault .badKind

/-- A computation that the template asks for in vain. -/
def fail {α : Type} (detail : String) : Run α := stop (.failed detail)

/-- The use of a value that is not there. -/
def missing {α : Type} (what : String) : Run α := fail (what ++ " is undefined")

/-- A computation without a store. -/
def ofResult {α : Type} (result : Result α) : Run α := fun store =>
  match result with
  | .ok a => .ok (a, store)
  | .error problem => .error problem

/-- A value that has to be there, or else a fault. -/
def orFault {α : Type} (reason : Fault) (value : Option α) : Run α :=
  match value with
  | some a => pure a
  | none => fault reason

/-- Another computation where one ends with some faults; what the first one changed is undone. -/
def rescue {α : Type} (first : Run α) (isCaught : Fault → Bool) (otherwise : Run α) : Run α :=
  fun store =>
    match first store with
    | .error (.fault found) => if isCaught found then otherwise store else .error (.fault found)
    | result => result

/-! ## Cells -/

/-- A new cell and its place. -/
def new (cell : Cell) : Run Place := fun store =>
  .ok (store.cells.size, { store with cells := store.cells.push cell })

/-- The cell at a place. -/
def read (place : Place) : Run Cell := fun store =>
  match store.cells[place]? with
  | some cell => .ok (cell, store)
  | none => .error (.fault .badKind)

/-- Replace the cell at a place. -/
def write (place : Place) (cell : Cell) : Run Unit := fun store =>
  .ok ((), { store with cells := store.cells.setIfInBounds place cell })

/-- The items of a list. -/
def listAt (place : Place) : Run (Array Datum) := do
  match ← read place with
  | .list items => pure items
  | _ => unsupported

/-- The entries of a mapping. -/
def entriesAt (place : Place) : Run (Array (Datum × Datum)) := do
  match ← read place with
  | .map entries => pure entries
  | _ => unsupported

/-- The members of a set. -/
def membersAt (place : Place) : Run (Array Datum) := do
  match ← read place with
  | .set items => pure items
  | _ => unsupported

/-- A new list. -/
def newList (items : List Datum) : Run Datum := do pure (.list (← new (.list items.toArray)))

/-- A new mapping whose keys are known to be different. -/
def newMap (entries : List (Datum × Datum)) : Run Datum := do
  pure (.map (← new (.map entries.toArray)))

/-- A new mapping with texts as keys. -/
def newRecord (entries : List (String × Datum)) : Run Datum :=
  newMap (entries.map fun (name, value) => (.text name, value))

/-- A new set whose members are known to be different. -/
def newSet (items : List Datum) : Run Datum := do pure (.set (← new (.set items.toArray)))

/-- A new stream. -/
def newStream (stream : Stream) : Run Datum := do pure (.stream (← new (.stream stream)))

/-- A list of texts. -/
def newTexts (texts : List String) : Run Datum := newList (texts.map .text)

/-! ## Values of documents -/

mutual

/-- The datum of a document value; the collection that comes back to itself is given. -/
def ofValue (around : Datum) : Value → Run Datum
  | .null => pure .none
  | .bool b => pure (.bool b)
  | .int n => pure (.int n)
  | .float x => pure (.float x)
  | .text s => pure (.text s)
  | .bytes octets => pure (.bytes octets)
  | .day d => pure (.day d)
  | .moment m => pure (.moment m)
  | .list items => do newList (← ofValues around items)
  | .pair key value => do pure (.tuple [← ofValue around key, ← ofValue around value])
  | .set items => do newSet (← ofValues around items)
  | .map entries => do newMap (← ofEntries around entries)
  | .recurring (.list []) | .recurring (.map []) => pure around
  | .recurring (.list items) => do
      let place ← new (.list #[])
      let items ← ofValues (.list place) items
      write place (.list items.toArray)
      pure (.list place)
  | .recurring (.map entries) => do
      let place ← new (.map #[])
      let entries ← ofEntries (.map place) entries
      write place (.map entries.toArray)
      pure (.map place)
  | .recurring content => ofValue around content

/-- The data of document values. -/
def ofValues (around : Datum) : List Value → Run (List Datum)
  | [] => pure []
  | value :: rest => do pure ((← ofValue around value) :: (← ofValues around rest))

/-- The entries of a document mapping. -/
def ofEntries (around : Datum) : List (Value × Value) → Run (List (Datum × Datum))
  | [] => pure []
  | (key, value) :: rest => do
      let key ← ofValue around key
      let value ← ofValue around value
      pure ((key, value) :: (← ofEntries around rest))

end

/-! ## Type nodes -/

/-- The class of a node. -/
def nodeType : TypeNode → String
  | .scalar .. => "PrimitiveType"
  | .array .. => "ArrayType"
  | .object .. => "ObjectType"
  | .reference .. => "ReferenceType"
  | .empty .. => "EmptyType"

/-- A node whose parts get places when they are asked for. -/
def newNode (shape : TypeNode) : Run Datum := do pure (.node (← new (.sealed shape)))

/-- Named nodes as the entries of a mapping. -/
def newNodes : List (String × TypeNode) → Run (List (Datum × Datum))
  | [] => pure []
  | (name, shape) :: rest => do
      let node ← newNode shape
      pure ((.text name, node) :: (← newNodes rest))

/-- The fields of a node, in order, with the parts at new places. -/
def newFields : TypeNode → Run (List (String × Datum))
  | .scalar required kind literals => do
      let literals ← match literals with
        | some values => do newList (← ofValues .none values)
        | none => pure .none
      pure [("required", .bool required), ("kind", .text "primitive"), ("name", .scalarKind kind),
        ("literals", literals)]
  | .array required items => do
      pure [("required", .bool required), ("kind", .text "array"), ("items", ← newNode items)]
  | .object required properties bases => do
      let properties ← newMap (← newNodes properties)
      pure [("required", .bool required), ("kind", .text "object"), ("properties", properties),
        ("bases", ← newTexts bases)]
  | .reference required name =>
      pure [("required", .bool required), ("kind", .text "reference"), ("name", .text name)]
  | .empty required => pure [("required", .bool required), ("kind", .text "empty")]

/-- The class and the fields of a node; its parts get places of their own at the first time. -/
def fieldsAt (place : Place) : Run (String × List (String × Datum)) := do
  match ← read place with
  | .node type fields => pure (type, fields)
  | .sealed shape => do
      let fields ← newFields shape
      write place (.node (nodeType shape) fields)
      pure (nodeType shape, fields)
  | _ => unsupported

/-! ## Variables -/

/-- The value at a slot. -/
def valueAt (slot : Slot) : List (Slot × Datum) → Option Datum
  | [] => none
  | (other, value) :: rest => if other = slot then some value else valueAt slot rest

/-- Set the value at a slot. -/
def putValue (slot : Slot) (value : Datum) : List (Slot × Datum) → List (Slot × Datum)
  | [] => [(slot, value)]
  | (other, old) :: rest =>
      if other = slot then (other, value) :: rest else (other, old) :: putValue slot value rest

/-- Take the value at a slot away. -/
def dropValue (slot : Slot) (bindings : List (Slot × Datum)) : List (Slot × Datum) :=
  bindings.filter fun (other, _) => other ≠ slot

/-- The most scopes inside each other. -/
def greatestNesting : Nat := 1000

/-- The value of a variable, looked for further out as long as the scopes are too deep for it. -/
def findFrom (slot : Slot) : (fuel : Nat) → Place → Run (Option Datum)
  | 0, _ => fault .endless
  | fuel + 1, place => do
      match ← read place with
      | .scope level outer _ bindings =>
          match decide (level ≤ slot.level), outer with
          | false, some further => findFrom slot fuel further
          | _, _ => pure (valueAt slot bindings)
      | _ => unsupported

/-- The value of a variable, if it has one. -/
def find? (scope : Place) (slot : Slot) : Run (Option Datum) := findFrom slot greatestNesting scope

/-- Give a variable of the innermost scopes a value. -/
def assign (scope : Place) (slot : Slot) (value : Datum) : Run Unit := do
  match ← read scope with
  | .scope level outer context bindings =>
      write scope (.scope level outer context (putValue slot value bindings))
  | _ => unsupported

/-- Take the value of a variable away. -/
def forget (scope : Place) (slot : Slot) : Run Unit := do
  match ← read scope with
  | .scope level outer context bindings =>
      write scope (.scope level outer context (dropValue slot bindings))
  | _ => unsupported

/-- The context of a scope. -/
def contextOf (scope : Place) : Run Place := do
  match ← read scope with
  | .scope _ _ context _ => pure context
  | _ => unsupported

/-! ## Contexts -/

/-- The value of a name. -/
def named (name : String) : List (String × Datum) → Option Datum
  | [] => none
  | (other, value) :: rest => if other = name then some value else named name rest

/-- Set the value of a name. -/
def putNamed (name : String) (value : Datum) : List (String × Datum) → List (String × Datum)
  | [] => [(name, value)]
  | (other, old) :: rest =>
      if other = name then (other, value) :: rest else (other, old) :: putNamed name value rest

/-- The names that every context knows. -/
def commonNames : List String := ["range", "dict", "lipsum", "cycler", "joiner", "namespace"]

/-- The value of a name in a context: its own, one it was given, or a function. -/
def resolve? (context : Place) (name : String) : Run (Option Datum) := do
  match ← read context with
  | .context own given _ =>
      pure ((named name own).orElse fun _ => (named name given).orElse fun _ =>
        if commonNames.contains name then some (.function name) else none)
  | _ => unsupported

/-- Keep a value in a context. -/
def keep (context : Place) (name : String) (value : Datum) : Run Unit := do
  match ← read context with
  | .context own given blocks => write context (.context (putNamed name value own) given blocks)
  | _ => unsupported

/-- Everything that a context knows. -/
def known (context : Place) : Run (List (String × Datum)) := do
  match ← read context with
  | .context own given _ =>
      pure (own.foldl (fun done (name, value) => putNamed name value done) given)
  | _ => unsupported

/-- The named parts of a context. -/
def blocksOf (context : Place) : Run (List Block) := do
  match ← read context with
  | .context _ _ blocks => pure blocks
  | _ => unsupported

/-- Start the variables of a scope. Those that are given keep their values. -/
def enter (scope : Place) : Opening → Run Unit
  | [] => pure ()
  | (slot, origin) :: rest => do
      match origin with
      | .given => pure ()
      | .unset => forget scope slot
      | .context => do
          match ← resolve? (← contextOf scope) slot.name with
          | some value => assign scope slot value
          | none => forget scope slot
      | .outer other => do
          match ← find? scope other with
          | some value => assign scope slot value
          | none => forget scope slot
      enter scope rest

/-- Take the values of all variables of a scope away. -/
def leave (scope : Place) (opening : Opening) : Run Unit :=
  opening.forM fun (slot, _) => forget scope slot

/-- A new scope that procedures or templates start with. -/
def newScope (level : Nat) (outer : Option Place) (context : Place) : Run Place :=
  new (.scope level outer context [])

end Run

end ClientGen.Template
