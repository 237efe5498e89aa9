import ClientGen.Template.Statement

/-!
# Scopes of templates

Which variable a name means is settled before a template is rendered. A scope knows the names that
are used or given a value in it; a name that an outer scope knows means the variable of that scope.
A scope says where each of its variables takes its first value from.
-/

namespace ClientGen.Template

/-! ## Names in a template -/

/-- How a name stands in a template. -/
inductive Occurrence where
  /-- Its value is used. -/
  | used (name : String)
  /-- It gets a value. -/
  | stored (name : String)
  /-- It is a parameter. -/
  | parameter (name : String)
  deriving DecidableEq, Repr

mutual

/-- The names that an expression uses. -/
def Term.names : Expression → List String
  | .none | .bool _ | .integer _ | .decimal _ | .text _ | .unwritable => []
  | .name word => [word]
  | .tuple items | .list items | .concat _ items => namesOfAll items
  | .map entries => namesOfEntries entries
  | .member subject _ => names subject
  | .item subject key => names subject ++ names key
  | .bounds start stop step => namesOfOptional start ++ namesOfOptional stop ++ namesOfOptional step
  | .call subject arguments | .filter subject _ arguments | .test subject _ arguments =>
      names subject ++ namesOfArguments arguments
  | .not operand | .negative operand | .positive operand => names operand
  | .binary _ left right | .and left right | .or left right => names left ++ names right
  | .compare first rest => names first ++ namesOfCompared rest
  | .choice condition chosen otherwise =>
      names condition ++ names chosen ++ namesOfOptional otherwise

/-- The names that several expressions use. -/
def Term.namesOfAll : List Expression → List String
  | [] => []
  | expression :: rest => names expression ++ namesOfAll rest

/-- The names that an expression uses, if it is there. -/
def Term.namesOfOptional : Option Expression → List String
  | .none => []
  | some expression => names expression

/-- The names that the entries of a mapping use. -/
def Term.namesOfEntries : List (Expression × Expression) → List String
  | [] => []
  | (key, value) :: rest => names key ++ names value ++ namesOfEntries rest

/-- The names that arguments use. -/
def Term.namesOfArguments : List (Passing × Expression) → List String
  | [] => []
  | (_, expression) :: rest => names expression ++ namesOfArguments rest

/-- The names that the further operands of comparisons use. -/
def Term.namesOfCompared : List (Comparison × Expression) → List String
  | [] => []
  | (_, expression) :: rest => names expression ++ namesOfCompared rest

end

mutual

/-- The names that a target gives values to. -/
def Target.names : Target → List String
  | .name word => [word]
  | .tuple items => namesOfAll items
  | .member .. => []

/-- The names that several targets give values to. -/
def Target.namesOfAll : List Target → List String
  | [] => []
  | target :: rest => names target ++ namesOfAll rest

end

mutual

/-- The namespaces whose members a target gives values to. -/
def Target.spaces : Target → List String
  | .member space _ => [space]
  | .tuple items => spacesOfAll items
  | .name _ => []

/-- The namespaces whose members several targets give values to. -/
def Target.spacesOfAll : List Target → List String
  | [] => []
  | target :: rest => spaces target ++ spacesOfAll rest

end

namespace Statement

/-- The names that filters use. -/
def filterNames (filters : List FilterUse) : List String :=
  filters.flatMap fun filter => Term.namesOfArguments filter.arguments

/-- The parameters and the names that their values use. -/
def parameterOccurrences (parameters : List Parameter) : List Occurrence :=
  parameters.map (fun parameter => .parameter parameter.name) ++
    (parameters.flatMap fun parameter => Term.namesOfOptional parameter.default).map .used

mutual

/-- The names in a statement, in order. `blocks` says whether named parts count. -/
def occurrences (blocks : Bool) : Statement → List Occurrence
  | .text _ => []
  | .print values => (Term.namesOfAll values).map .used
  | .branch condition body further otherwise =>
      (Term.names condition).map .used ++ occurrencesOf blocks body ++
        occurrencesOfBranches blocks further ++ occurrencesOf blocks otherwise
  | .loop target items condition _ body otherwise =>
      (Target.names target).map .stored ++ (Term.names items).map .used ++
        occurrencesOf blocks body ++ occurrencesOf blocks otherwise ++
        (Term.namesOfOptional condition).map .used
  | .assign target value => (Target.names target).map .stored ++ (Term.names value).map .used
  | .capture target filters body =>
      (Target.names target).map .stored ++ (filterNames filters).map .used ++
        occurrencesOf blocks body
  | .procedure _ parameters body => parameterOccurrences parameters ++ occurrencesOf blocks body
  | .callWith parameters call body =>
      (Term.names call).map .used ++ parameterOccurrences parameters ++ occurrencesOf blocks body
  | .filtered filters body => occurrencesOf blocks body ++ (filterNames filters).map .used
  | .block _ _ _ body => if blocks then occurrencesOf blocks body else []
  | .insert source _ _ | .load source _ _ | .loadNames source _ _ | .inherit source =>
      (Term.names source).map .used
  | .scope bindings body =>
      (bindings.flatMap fun (target, _) => (Target.names target).map .parameter) ++
        (bindings.flatMap fun (_, value) => (Term.names value).map .used) ++
        occurrencesOf blocks body
  | .escape value body => (Term.names value).map .used ++ occurrencesOf blocks body

/-- The names in a body, in order. -/
def occurrencesOf (blocks : Bool) : List Statement → List Occurrence
  | [] => []
  | statement :: rest => occurrences blocks statement ++ occurrencesOf blocks rest

/-- The names in branches, in order. -/
def occurrencesOfBranches (blocks : Bool) : List (Expression × List Statement) → List Occurrence
  | [] => []
  | (condition, body) :: rest =>
      (Term.names condition).map .used ++ occurrencesOf blocks body ++
        occurrencesOfBranches blocks rest

end

/-- Which of some names are used before they get a value or are parameters. -/
def undeclared : (watched : List String) → List Occurrence → List String
  | _, [] => []
  | watched, .used name :: rest =>
      let found := undeclared watched rest
      if watched.contains name && !found.contains name then name :: found else found
  | watched, .stored name :: rest | watched, .parameter name :: rest =>
      undeclared (watched.erase name) rest

/-- The names that a body uses out of some names, named parts left aside. -/
def undeclaredIn (watched : List String) (body : List Statement) : List String :=
  undeclared watched (occurrencesOf false body)

end Statement

/-! ## Scopes -/

/-- The slot of a variable: its name and the depth of the scope that it belongs to. -/
structure Slot where
  /-- The depth of the scope. -/
  level : Nat
  /-- The name. -/
  name : String
  deriving DecidableEq, Repr, Inhabited

/-- Where a variable takes its first value from. -/
inductive Origin where
  /-- Whoever opens the scope gives it. -/
  | given
  /-- The context of the template has it, if anything does. -/
  | context
  /-- A variable further out has it. -/
  | outer (slot : Slot)
  /-- There is none yet. -/
  | unset
  deriving DecidableEq, Repr

/-- The variables of one scope. -/
structure Layer where
  /-- The depth of the scope. -/
  level : Nat
  /-- The variables and where their first values come from. -/
  origins : List (String × Origin)
  /-- The variables that get a value in the scope. -/
  stored : List String
  deriving Repr, Inhabited

namespace Layer

/-- Whether a layer has a variable. -/
def has (layer : Layer) (name : String) : Bool := layer.origins.any (·.1 == name)

/-- Say where a variable takes its first value from. -/
def define (layer : Layer) (name : String) (origin : Origin) : Layer :=
  if layer.has name then
    { layer with origins := layer.origins.map fun (other, found) =>
        if other = name then (other, origin) else (other, found) }
  else { layer with origins := layer.origins ++ [(name, origin)] }

/-- Note that a variable gets a value. -/
def noteStored (layer : Layer) (name : String) : Layer :=
  if layer.stored.contains name then layer else { layer with stored := layer.stored ++ [name] }

/-- The variables of a layer with their first values. -/
def opening (layer : Layer) : List (Slot × Origin) :=
  layer.origins.map fun (name, origin) => (⟨layer.level, name⟩, origin)

end Layer

/-- The layers of nested scopes, innermost first. -/
abbrev Scope := List Layer

namespace Scope

/-- The slot that a name means, if one of the scopes knows the name. -/
def find? (name : String) : Scope → Option Slot
  | [] => none
  | layer :: rest => if layer.has name then some ⟨layer.level, name⟩ else find? name rest

/-- The innermost layer. -/
def innermost (scope : Scope) : Layer := scope.headD ⟨0, [], []⟩

/-- The depth of the innermost scope. -/
def level (scope : Scope) : Nat := scope.innermost.level

/-- The first values of the innermost scope. -/
def opening (scope : Scope) : List (Slot × Origin) := scope.innermost.opening

/-- The outermost scope. -/
def outermost : Scope := [⟨0, [], []⟩]

/-- A new scope inside a scope. -/
def inner (scope : Scope) : Scope := ⟨scope.level + 1, [], []⟩ :: scope

/-- Change the innermost layer. -/
def change (f : Layer → Layer) : Scope → Scope
  | [] => [f ⟨0, [], []⟩]
  | layer :: rest => f layer :: rest

/-- The origin of a variable that an outer scope may know. -/
def originIn (outer : Scope) (name : String) (otherwise : Origin) : Origin :=
  match find? name outer with
  | some slot => .outer slot
  | none => otherwise

/-- A variable that whoever opens the scope gives. -/
def declare (scope : Scope) (name : String) : Scope :=
  scope.change fun layer => (layer.noteStored name).define name .given

/-- A variable that gets a value. -/
def store (scope : Scope) (name : String) : Scope :=
  scope.change fun layer =>
    let noted := layer.noteStored name
    if noted.has name then noted
    else noted.define name (originIn scope.tail name .unset)

/-- A variable whose value is used. -/
def load (scope : Scope) (name : String) : Scope :=
  match find? name scope with
  | some _ => scope
  | none => scope.change fun layer => layer.define name .context

/-- Several variables whose values are used. -/
def loadAll (scope : Scope) (names : List String) : Scope := names.foldl load scope

/-- The scope after branches that started with it. A variable that gets its first value in a branch
takes the value further out before. -/
def merge (scope : Scope) (branches : List Scope) : Scope :=
  let before := scope.innermost.stored
  let new := (branches.flatMap fun branch => branch.innermost.stored).eraseDups.filter
    fun name => !before.contains name
  let all := branches.foldl
    (fun done branch =>
      let layer := branch.innermost
      layer.stored.foldl Layer.noteStored
        (layer.origins.foldl (fun done (name, origin) => done.define name origin) done))
    scope.innermost
  scope.change fun _ =>
    new.foldl (fun done name => done.define name (originIn scope.tail name .context)) all

/-! ## Analysis -/

/-- A target and its variables. -/
def visitTarget (scope : Scope) (target : Target) : Scope :=
  (Target.spaces target).foldl load ((Target.names target).foldl store scope)

/-- Filters without the value they are applied to. -/
def visitFilters (scope : Scope) (filters : List FilterUse) : Scope :=
  scope.loadAll (Statement.filterNames filters)

mutual

/-- The scope with the variables of a statement. Statements with a scope of their own count only
with the parts that are outside of it. -/
def visit (scope : Scope) : Statement → Scope
  | .text _ | .block .. | .escape .. => scope
  | .print values => scope.loadAll (Term.namesOfAll values)
  | .branch condition body further otherwise =>
      let scope := scope.loadAll (Term.names condition)
      scope.merge [visitAll scope body, visitFurther scope further, visitAll scope otherwise]
  | .loop _ items _ _ _ _ => scope.loadAll (Term.names items)
  | .assign target value => (scope.loadAll (Term.names value)).visitTarget target
  | .capture target _ _ => scope.visitTarget target
  | .procedure name _ _ => scope.store name
  | .callWith _ call _ => scope.loadAll (Term.names call)
  | .filtered filters _ => scope.visitFilters filters
  | .insert source _ _ | .inherit source => scope.loadAll (Term.names source)
  | .load source name _ => (scope.loadAll (Term.names source)).store name
  | .loadNames source names _ =>
      (names.map (·.2)).foldl store (scope.loadAll (Term.names source))
  | .scope bindings _ =>
      scope.loadAll (bindings.flatMap fun (_, value) => Term.names value)

/-- The scope with the variables of a body. -/
def visitAll (scope : Scope) : List Statement → Scope
  | [] => scope
  | statement :: rest => visitAll (visit scope statement) rest

/-- The scope with the variables of further branches. -/
def visitFurther (scope : Scope) : List (Expression × List Statement) → Scope
  | [] => scope
  | (condition, body) :: rest =>
      let scope := scope.loadAll (Term.names condition)
      visitFurther (scope.merge [visitAll scope body, scope, scope]) rest

end

/-- The scope with the parameters of a procedure and the variables of its body. -/
def visitProcedure (scope : Scope) (parameters : List Parameter) (body : List Statement) : Scope :=
  let declared := (parameters.map (·.name)).foldl declare scope
  (declared.loadAll (parameters.flatMap fun parameter =>
    Term.namesOfOptional parameter.default)).visitAll body

/-- The variables that have got a value in the scopes, with the slots they mean. -/
def visible : Scope → List (String × Slot)
  | [] => []
  | layer :: rest =>
      (layer.stored.filterMap fun name => (find? name (layer :: rest)).map fun slot => (name, slot)) ++
        (visible rest).filter fun (name, _) => !layer.stored.contains name

end Scope

end ClientGen.Template
