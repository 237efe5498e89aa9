import ClientGen.Template.Filter.Number
import ClientGen.Template.Filter.Sequence

/-!
# Filters

All filters that every template can use, and those that ask about a datum itself.
-/

namespace ClientGen.Template

namespace Run

open Datum hiding none

/-- The datum, or another one where it is not there or, on demand, counts as false. -/
def orDefault (datum default countsFalse : Datum) : Run Datum := do
  if datum.isUndefined then pure default
  else if ← isTruthy countsFalse then
    if ← isTruthy datum then pure datum else pure default
  else pure datum

/-- A member of a datum; its items do not count. -/
def memberFilter (machine : Machine) (datum name : Datum) : Run Datum := do
  let word := String.ofList (← textArgument name)
  pure ((← attribute? machine datum word).getD (.undefined word))

/-- The parameters of a default. -/
def defaultParameters : List (String × Option Datum) :=
  [("default_value", some (.text "")), ("boolean", unset)]

/-- The filter that puts a default in the place of something that is not there. -/
def defaultFilter : Filter := fittedFilter defaultParameters fun _ datum given =>
  orDefault datum (argument given 0 .none) (argument given 1 .none)

/-- The filters that every template can use. -/
def standardFilters : Filters :=
  textFilters ++ numberFilters ++ sequenceFilters ++
    [("default", defaultFilter), ("d", defaultFilter),
      ("attr", fittedFilter [("name", none)] fun machine datum given =>
        memberFilter machine datum (argument given 0 .none))]

/-- The filter of a name among some filters. -/
def filterNamed? (filters : Filters) (name : String) : Option Filter :=
  (filters.find? (·.1 == name)).map (·.2)

/-- The result of a filter that is named by a datum. -/
def filterBy (filters : Filters) (machine : Machine) (name subject : Datum) (supplied : Supplied) :
    Run Datum := do
  match (← asKey name).text?.bind (filterNamed? filters) with
  | some filter => filter machine subject supplied
  | none => fail "there is no such filter"

end Run

end ClientGen.Template
