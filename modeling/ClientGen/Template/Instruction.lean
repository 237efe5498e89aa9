import ClientGen.Template.Scope

/-!
# Instructions

What a template is compiled to. Names have turned into slots, each scope says how its variables
start, and every printed value says whether it is escaped.
-/

namespace ClientGen.Template

/-- An expression over slots. -/
abbrev Formula := Term Slot

/-- The variables of a scope and where their first values come from. -/
abbrev Opening := List (Slot × Origin)

/-- Whether text that is printed or marked is escaped. -/
inductive Escaping where
  /-- It is not. -/
  | plain
  /-- It is. -/
  | escaped
  /-- That is settled when the template is rendered. -/
  | dynamic
  deriving DecidableEq, Repr, Inhabited

/-- What an assignment or a loop gives values to. -/
inductive Goal where
  /-- A variable. -/
  | slot (slot : Slot)
  /-- Several goals for the items of a sequence. -/
  | tuple (items : List Goal)
  /-- A member of the value of a variable. -/
  | member (space : Slot) (name : String)
  deriving Repr, Inhabited

/-- A parameter with its slot. -/
structure Receiver where
  /-- The name that arguments use. -/
  name : String
  /-- The slot. -/
  slot : Slot
  /-- The value without an argument. -/
  default : Option Formula
  deriving Repr

/-- A procedure over statements of some kind. -/
structure Routine (Statement : Type) where
  /-- Its name; the body of a call has none. -/
  name : Option String
  /-- The parameters. -/
  receivers : List Receiver
  /-- The slot for the body of a call, if the procedure uses it. -/
  caller : Option Slot
  /-- The slot for further named arguments, if the procedure uses them. -/
  further : Option Slot
  /-- The slot for further positional arguments, if the procedure uses them. -/
  rest : Option Slot
  /-- The depth of its scope. -/
  level : Nat
  /-- How its variables start. -/
  opening : Opening
  /-- What it does. -/
  body : List Statement
  deriving Repr

/-- A loop over statements of some kind. -/
structure Iteration (Statement : Type) where
  /-- What gets each item. -/
  goal : Goal
  /-- The slot of the state of the loop, if it is used. -/
  state : Option Slot
  /-- The condition of items, with the variables of its scope. -/
  condition : Option (Opening × Formula)
  /-- The depth of its scopes. -/
  level : Nat
  /-- How the variables of the body start. -/
  opening : Opening
  /-- What is done for each item. -/
  body : List Statement
  /-- How the variables of the last part start. -/
  otherwiseOpening : Opening
  /-- What is done if there is no item. -/
  otherwise : List Statement
  deriving Repr

/-- An instruction. -/
inductive Instruction where
  /-- Print a text. -/
  | text (value : String)
  /-- Print a value. -/
  | print (escaping : Escaping) (value : Formula)
  /-- Do something unless another template has taken over. -/
  | unlessInherited (body : List Instruction)
  /-- Do the first branch whose condition counts as true, or else the last one. -/
  | branch (condition : Formula) (body : List Instruction)
      (further : List (Formula × List Instruction)) (otherwise : List Instruction)
  /-- Go through the items of a value. -/
  | loop (iteration : Iteration Instruction) (items : Formula)
  /-- Go through the items of a value by a loop that can be called. -/
  | recursiveLoop (escaping : Escaping) (iteration : Iteration Instruction) (items : Formula)
  /-- Assign a value. The given variables have to be namespaces; some variables are kept in the
  context, too. -/
  | assign (goal : Goal) (spaces : List Slot) (value : Formula) (kept : List Slot)
  /-- Assign what a body prints, refined by a formula over the slot that holds it. -/
  | capture (goal : Goal) (opening : Opening) (body : List Instruction) (escaping : Escaping)
      (printed : Slot) (refined : Formula) (kept : List Slot)
  /-- Define a procedure. -/
  | procedure (routine : Routine Instruction) (slot : Slot) (isKept : Bool)
  /-- Call a function with a body. -/
  | callWith (routine : Routine Instruction) (function : Formula)
      (arguments : List (Passing × Formula))
  /-- Print what a body prints, refined by a formula over the slot that holds it. -/
  | filtered (opening : Opening) (body : List Instruction) (escaping : Escaping) (printed : Slot)
      (refined : Formula)
  /-- Do a named part. A scoped one sees some variables. -/
  | block (name : String) (isRequired : Bool) (shared : Option (List (String × Slot)))
  /-- Print another template, which may see some variables. -/
  | insert (source : Formula) (optional : Bool) (shared : Option (List (String × Slot)))
  /-- Load another template under a name. -/
  | load (source : Formula) (shared : Option (List (String × Slot))) (slot : Slot) (isKept : Bool)
  /-- Load names of another template. -/
  | loadNames (source : Formula) (shared : Option (List (String × Slot)))
      (names : List (String × Slot)) (isKept : Bool)
  /-- Have another template take over; it is an error if one has already. -/
  | inherit (source : Formula) (isChecked : Bool)
  /-- Fail because another template has taken over already. -/
  | inheritAgain
  /-- Give variables values for a body. -/
  | scope (opening : Opening) (bindings : List (Goal × Formula)) (body : List Instruction)
  /-- Settle for a body whether printed values are escaped. -/
  | escape (opening : Opening) (value : Formula) (body : List Instruction)
  deriving Repr, Inhabited

/-- A named part. -/
structure Block where
  /-- Its name. -/
  name : String
  /-- The slot of the template itself, if the part uses it. -/
  current : Option Slot
  /-- The slot of the part that it replaces, if it uses that. -/
  replaced : Option Slot
  /-- How its variables start. -/
  opening : Opening
  /-- What it does. -/
  body : List Instruction
  deriving Repr

/-- A compiled template. -/
structure Template where
  /-- The slot of the template itself, if it is used. -/
  current : Option Slot
  /-- How the outermost variables start. -/
  opening : Opening
  /-- What it does. -/
  body : List Instruction
  /-- The named parts. -/
  blocks : List Block
  deriving Repr

end ClientGen.Template
