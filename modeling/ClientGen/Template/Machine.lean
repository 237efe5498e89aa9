import ClientGen.Template.Store

/-!
# Computing with templates

What the parts of a template can do to each other: the value of an expression may call a
procedure, a filter may take the next item of a stream whose items depend on further expressions,
and so on. A machine holds all of these, each of them with less depth to go than the one that uses
the machine, so that no definition refers to itself.
-/

namespace ClientGen.Template

/-- What templates can do. -/
structure Machine where
  /-- The value of an expression in a scope. -/
  value : (scope : Place) → Formula → Run Datum
  /-- What instructions print in a scope. -/
  perform : (scope : Place) → List Instruction → Run String
  /-- A call. -/
  call : Datum → Supplied → Run Datum
  /-- The next item of a stream. -/
  next : Place → Run (Option Datum)
  /-- The result of a filter that is named by a datum. -/
  filter : (name subject : Datum) → Supplied → Run Datum
  /-- The result of a test that is named by a datum. -/
  test : (name subject : Datum) → Supplied → Run Bool
  /-- Whether there is a filter of a name. -/
  hasFilter : String → Bool

/-- A machine that has no depth left. -/
def Machine.exhausted : Machine where
  value _ _ := Run.fault .endless
  perform _ _ := Run.fault .endless
  call _ _ := Run.fault .endless
  next _ := Run.fault .endless
  filter _ _ _ := Run.fault .endless
  test _ _ _ := Run.fault .endless
  hasFilter _ := false

/-- A filter. -/
abbrev Filter := Machine → Datum → Supplied → Run Datum

/-- Filters by name. -/
abbrev Filters := List (String × Filter)

namespace Supplied

/-- No arguments. -/
def nothing : Supplied := ⟨[], []⟩

/-- Arguments by position. -/
def byPosition (values : List Datum) : Supplied := ⟨values, []⟩

/-- The named argument of a name. -/
def find? (supplied : Supplied) (name : String) : Option Datum := Run.named name supplied.named

/-- The arguments without a named one. -/
def without (supplied : Supplied) (name : String) : Supplied :=
  { supplied with named := supplied.named.filter fun (other, _) => other ≠ name }

/-- The arguments for parameters in order; a parameter may have a value without an argument. Each
argument has to belong to a parameter. -/
def fit (supplied : Supplied) : (parameters : List (String × Option Datum)) → Run (List Datum)
  | [] =>
      if supplied.positional.isEmpty && supplied.named.isEmpty then pure [] else Run.unsupported
  | (name, default) :: rest =>
      match supplied.positional, supplied.find? name, default with
      | _ :: _, some _, _ => Run.unsupported
      | value :: others, none, _ => do
          pure (value :: (← fit ⟨others, supplied.named⟩ rest))
      | [], some value, _ => do pure (value :: (← fit (supplied.without name) rest))
      | [], none, some value => do pure (value :: (← fit supplied rest))
      | [], none, none => Run.unsupported

/-- The arguments, which must all be passed by position, so many at least and so many at most. -/
def only (supplied : Supplied) (least most : Nat) : Run (List Datum) :=
  let count := supplied.positional.length
  if supplied.named.isEmpty && least ≤ count && count ≤ most then pure supplied.positional
  else Run.unsupported

/-- There must be no arguments. -/
def finish (supplied : Supplied) : Run Unit := do
  let _ ← supplied.only 0 0
  pure ()

end Supplied

end ClientGen.Template
