import ClientGen.Failure
import ClientGen.Number.Complex
import ClientGen.Schema.TypeNode
import ClientGen.Template.Instruction
import ClientGen.Text.Case

/-!
# Data of templates

The values that templates compute with. Values that can change or that have an identity of their
own live in cells of a store; a datum holds the place of its cell. A variable without a value is a
value of its own, which prints as nothing.
-/

namespace ClientGen.Template

/-! ## Data -/

/-- A place in the store. -/
abbrev Place := Nat

/-- What a view of a mapping shows. -/
inductive View where
  /-- The keys. -/
  | keys
  /-- The values. -/
  | values
  /-- The entries. -/
  | entries
  deriving DecidableEq, Repr

/-- A value of a template. -/
inductive Datum where
  /-- The value of something that is not there. -/
  | undefined (name : String)
  /-- The absent value. -/
  | none
  /-- A truth value. -/
  | bool (value : Bool)
  /-- An integer. -/
  | int (value : Int)
  /-- A floating-point number. -/
  | float (value : Double)
  /-- A complex number. -/
  | complex (value : Complex)
  /-- Text. -/
  | text (value : String)
  /-- Text that needs no escapes. -/
  | markup (value : String)
  /-- A kind of scalars, which is a text of its own. -/
  | scalarKind (kind : ScalarKind)
  /-- Binary data. -/
  | bytes (octets : List UInt8)
  /-- A calendar day. -/
  | day (value : Day)
  /-- A moment. -/
  | moment (value : Moment)
  /-- A length of time in millionth parts of a second. -/
  | span (micro : Int)
  /-- A distance from universal time in minutes. -/
  | zone (minutes : Int)
  /-- A sequence of fixed items. -/
  | tuple (items : List Datum)
  /-- The key of a group and its items. -/
  | group (key items : Datum)
  /-- Integers at equal distances. -/
  | range (start stop step : Int)
  /-- The key of a part of a sequence. -/
  | bounds (start stop step : Datum)
  /-- A sequence. -/
  | list (place : Place)
  /-- A mapping. -/
  | map (place : Place)
  /-- A set. -/
  | set (place : Place)
  /-- A view of a mapping. -/
  | view (kind : View) (map : Place)
  /-- A type node. -/
  | node (place : Place)
  /-- Values that are handed out one by one. -/
  | stream (place : Place)
  /-- A namespace. -/
  | space (place : Place)
  /-- Values that are handed out in turn. -/
  | cycler (place : Place)
  /-- A text for all places but the first. -/
  | joiner (place : Place)
  /-- A procedure. -/
  | procedure (place : Place)
  /-- The state of a loop. -/
  | loop (place : Place)
  /-- A loaded template. -/
  | loaded (place : Place)
  /-- The template itself, in a context. -/
  | current (context : Place)
  /-- A named part of the template, in a context. -/
  | block (name : String) (context : Place)
  /-- An operation of a value. -/
  | method (receiver : Datum) (name : String)
  /-- A function that every template has. -/
  | function (name : String)
  /-- A class of values. -/
  | type (name : String)
  deriving Repr, Inhabited, BEq

/-- The arguments of a call. -/
structure Supplied where
  /-- Those by position. -/
  positional : List Datum
  /-- Those by name. -/
  named : List (String × Datum)
  deriving Repr, Inhabited

/-! ## Cells -/

/-- A change of each item of a stream. -/
inductive Change where
  /-- The value that a way of keys leads to. -/
  | follow (keys : List Datum) (default : Datum)
  /-- A filter. -/
  | filter (name : Datum) (supplied : Supplied)
  deriving Repr

/-- A choice among the items of a stream. -/
structure Choice where
  /-- Whether the items that do not pass are chosen. -/
  isNegated : Bool
  /-- The way of keys to the value that is tested. -/
  keys : List Datum
  /-- The test, or else whether the value counts as true. -/
  test : Option (Datum × Supplied)
  deriving Repr

/-- What is left of a stream. -/
inductive Stream where
  /-- The given items. -/
  | items (rest : List Datum)
  /-- The items of a list from a position on. -/
  | elements (list : Place) (position : Nat)
  /-- The items of a list in front of a position, last first. -/
  | elementsBack (list : Place) (position : Nat)
  /-- What a view shows from a position on, as long as the size stays the same. -/
  | shown (kind : View) (map : Place) (position size : Nat)
  /-- What a view shows in front of a position, last first. -/
  | shownBack (kind : View) (map : Place) (position size : Nat)
  /-- The members of a set from a position on, as long as the size stays the same. -/
  | members (set : Place) (position size : Nat)
  /-- Integers at equal distances. -/
  | numbers (next step : Int) (count : Nat)
  /-- The result of a filter that has not started. -/
  | pending (filter : String) (subject : Datum) (supplied : Supplied)
  /-- The changed items of another stream. -/
  | changed (source : Place) (change : Change)
  /-- The chosen items of another stream. -/
  | chosen (source : Place) (choice : Choice)
  /-- The first items of another stream with each key. -/
  | unique (source : Place) (isCaseSensitive : Bool) (keys : List Datum) (seen : List Datum)
  /-- The items of another stream that pass the condition of a loop. -/
  | guarded (source scope : Place) (goal : Goal) (condition : Formula)
  /-- The items of a running loop, each with the state of the loop. -/
  | states (loop : Place)
  deriving Repr

/-- A loop that can be called, and the place of the variables around it. -/
structure Recursion where
  /-- The loop. -/
  iteration : Iteration Instruction
  /-- Whether its text is escaped. -/
  escaping : Escaping
  /-- The variables around it. -/
  scope : Place
  deriving Repr

/-- The state of a loop. -/
structure LoopState where
  /-- What the loop goes through. -/
  source : Datum
  /-- The items still to come. -/
  stream : Place
  /-- The number of items, when it is known. -/
  length : Option Int
  /-- The position of the current item. -/
  position : Int
  /-- The item before. -/
  before : Option Datum
  /-- The current item. -/
  current : Option Datum
  /-- The item after, when it has been looked at. -/
  after : Option Datum
  /-- The values that were last looked at for a change. -/
  watched : Option (List Datum)
  /-- The number of calls of the loop around it. -/
  depth : Nat
  /-- How the loop can be called. -/
  recursion : Option Recursion
  deriving Repr

/-- What stands at a place of the store. -/
inductive Cell where
  /-- A list. -/
  | list (items : Array Datum)
  /-- A mapping. -/
  | map (entries : Array (Datum × Datum))
  /-- A set. -/
  | set (items : Array Datum)
  /-- A type node whose parts have no places yet. -/
  | sealed (shape : TypeNode)
  /-- A type node by the name of its class and its fields. -/
  | node (type : String) (fields : List (String × Datum))
  /-- A stream. -/
  | stream (stream : Stream)
  /-- A namespace. -/
  | space (entries : Array (Datum × Datum))
  /-- Values in turn. -/
  | cycler (items : List Datum) (position : Nat)
  /-- A text for all places but the first. -/
  | joiner (separator : Datum) (isUsed : Bool)
  /-- A procedure and the variables around it. -/
  | procedure (routine : Routine Instruction) (scope : Place)
  /-- The state of a loop. -/
  | loop (state : LoopState)
  /-- A loaded template. -/
  | loaded (name text : String)
  /-- Variables: those of scopes from a depth on, with the place of the variables further out and
  of the context. -/
  | scope (level : Nat) (outer : Option Place) (context : Place) (bindings : List (Slot × Datum))
  /-- A context: its own variables, those it was given, and the named parts. -/
  | context (own given : List (String × Datum)) (blocks : List Block)
  deriving Repr, Inhabited

/-! ## Kinds of data -/

namespace Datum

/-- A number. -/
inductive Number where
  /-- An integer. -/
  | int (value : Int)
  /-- A floating-point number. -/
  | float (value : Double)
  deriving Repr

/-- The number that a datum is or counts as. -/
def number? : Datum → Option Number
  | .bool b => some (.int (Value.ofBool b))
  | .int n => some (.int n)
  | .float x => some (.float x)
  | _ => .none

/-- The complex number that a datum is or counts as. -/
def complex? : Datum → Option Complex
  | .complex z => some z
  | .bool b => some (.ofReal (.ofInt (Value.ofBool b)))
  | .int n => some (.ofReal (.ofInt n))
  | .float x => some (.ofReal x)
  | _ => .none

/-- Whether a datum is a number. -/
def isNumber (datum : Datum) : Bool := datum.complex?.isSome

/-- The integer that a datum is or counts as. -/
def int? : Datum → Option Int
  | .bool b => some (Value.ofBool b)
  | .int n => some n
  | _ => .none

/-- The text that a datum is. -/
def text? : Datum → Option String
  | .text s | .markup s => some s
  | .scalarKind kind => some kind.name
  | _ => .none

/-- Whether a datum is text. -/
def isText (datum : Datum) : Bool := datum.text?.isSome

/-- Whether a datum is something that is not there. -/
def isUndefined : Datum → Bool
  | .undefined _ => true
  | _ => false

/-- Whether a datum says itself how it looks in a marked text. -/
def isMarked : Datum → Bool
  | .markup _ | .loaded _ => true
  | _ => false

/-- Text of the kind that another datum is: marked next to marked text. -/
def likeText (model : Datum) (text : List Char) : Datum :=
  match model with
  | .markup _ => .markup (String.ofList text)
  | _ => .text (String.ofList text)

/-- A text from its characters. -/
def ofChars (text : List Char) : Datum := .text (String.ofList text)

/-- The datum of a text that may be missing. -/
def ofOptional : Option String → Datum
  | some s => .text s
  | .none => .none

/-- The number of integers in a range. -/
def rangeSize (start stop step : Int) : Nat :=
  (if 0 < step then (stop - start + step - 1) / step
    else if step < 0 then (start - stop - step - 1) / -step
    else 0).toNat

/-- The name of a scalar kind as a member of its class. -/
def kindMember (kind : ScalarKind) : String :=
  "PrimitiveKind." ++ String.ofList (Text.upper kind.name.toList)

end Datum

/-- Order of two numbers; none if one of them is undefined. -/
def Datum.Number.compare? : Datum.Number → Datum.Number → Option Ordering
  | .int a, .int b => some (Ord.compare a b)
  | .int a, .float b => Double.compareInt? a b
  | .float a, .int b => (Double.compareInt? b a).map Ordering.swap
  | .float a, .float b => a.compare? b

end ClientGen.Template
