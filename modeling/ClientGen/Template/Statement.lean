import ClientGen.Template.Expression
import ClientGen.Template.Piece

/-!
# Statements of templates

A template is a list of statements: text, printed values, conditions, loops, assignments and the
rest. Statements with a body end with a tag of their own.
-/

namespace ClientGen.Template

/-- What an assignment or a loop gives values to. -/
inductive Target where
  /-- A variable. -/
  | name (name : String)
  /-- Several targets for the items of a sequence. -/
  | tuple (items : List Target)
  /-- A member of a namespace. -/
  | member (space name : String)
  deriving Repr, Inhabited

/-- A parameter of a procedure, with the value it has without an argument. -/
structure Parameter where
  /-- Its name. -/
  name : String
  /-- The value it has without an argument. -/
  default : Option Expression
  deriving Repr

/-- A filter without the value it is applied to. -/
structure FilterUse where
  /-- Its name. -/
  name : String
  /-- Its arguments. -/
  arguments : Expression.Arguments
  deriving Repr

/-- A statement. -/
inductive Statement where
  /-- Text. -/
  | text (value : String)
  /-- Printed values. -/
  | print (values : List Expression)
  /-- The first branch whose condition counts as true, or else the last one. -/
  | branch (condition : Expression) (body : List Statement)
      (further : List (Expression × List Statement)) (otherwise : List Statement)
  /-- The body once for each item that passes the condition, or else the last part. A recursive
  loop can be called in its own body. -/
  | loop (target : Target) (items : Expression) (condition : Option Expression)
      (recursive : Bool) (body otherwise : List Statement)
  /-- An assignment. -/
  | assign (target : Target) (value : Expression)
  /-- An assignment of what the body prints. -/
  | capture (target : Target) (filters : List FilterUse) (body : List Statement)
  /-- A procedure. -/
  | procedure (name : String) (parameters : List Parameter) (body : List Statement)
  /-- A call of a procedure with a body. -/
  | callWith (parameters : List Parameter) (call : Expression) (body : List Statement)
  /-- What the body prints, with filters applied. -/
  | filtered (filters : List FilterUse) (body : List Statement)
  /-- A named part. A scoped one sees the variables around it; a required one must be given by
  another template. -/
  | block (name : String) (isScoped isRequired : Bool) (body : List Statement)
  /-- Another template in this place, which may see the variables here. -/
  | insert (source : Expression) (optional sharing : Bool)
  /-- The procedures of another template under a name. -/
  | load (source : Expression) (name : String) (sharing : Bool)
  /-- Single procedures of another template. -/
  | loadNames (source : Expression) (names : List (String × String)) (sharing : Bool)
  /-- Another template that takes over. -/
  | inherit (source : Expression)
  /-- Variables for a body only. -/
  | scope (bindings : List (Target × Expression)) (body : List Statement)
  /-- A body whose printed values are escaped, if the value counts as true. -/
  | escape (value : Expression) (body : List Statement)
  deriving Repr, Inhabited

namespace Statement

/-- A reader of pieces. -/
abbrev Reader (α : Type) := List Piece → Result (α × List Piece)

/-! ## Parts of tags -/

/-- Names that cannot be assigned to. -/
def constants : List String := ["true", "false", "none", "True", "False", "None"]

/-- A name that can be assigned to. -/
def assignable (word : String) : Result String :=
  if constants.contains word then .error "a constant cannot be assigned to" else .ok word

mutual

/-- One target: a name, a member of a namespace where such are allowed, or targets in
parentheses. -/
def target (members : Bool) : (fuel : Nat) → Expression.Reader Target
  | 0, _ => .error "a target is too deep"
  | fuel + 1, symbols =>
      match symbols with
      | .name space :: .mark "." :: .name word :: rest =>
          if members && !constants.contains space then .ok (.member space word, rest)
          else .error "a target is expected"
      | .name word :: rest => do .ok (.name (← assignable word), rest)
      | .mark "(" :: .mark ")" :: rest => .ok (.tuple [], rest)
      | .mark "(" :: rest => do
          let (found, rest) ← targets false [] fuel rest
          .ok (found, ← Expression.expect ")" rest)
      | _ => .error "a target is expected"

/-- One target, or several with commas between them. -/
def targets (members : Bool) (stops : List String) : (fuel : Nat) → Expression.Reader Target
  | 0, _ => .error "a target is too deep"
  | fuel + 1, symbols => do
      let (first, rest) ← target members fuel symbols
      match rest with
      | .mark "," :: rest => do
          let (others, rest) ← furtherTargets members stops fuel rest
          .ok (.tuple (first :: others), rest)
      | _ => .ok (first, rest)

/-- The targets after a comma. -/
def furtherTargets (members : Bool) (stops : List String) :
    (fuel : Nat) → Expression.Reader (List Target)
  | 0, _ => .error "a target is too deep"
  | fuel + 1, symbols => do
      if Expression.endsSequence stops symbols then .ok ([], symbols)
      else
        let (first, rest) ← target members fuel symbols
        match rest with
        | .mark "," :: rest => do
            let (others, rest) ← furtherTargets members stops fuel rest
            .ok (first :: others, rest)
        | _ => .ok ([first], rest)

end

/-- The targets in front of something. -/
def targetsOf (members : Bool) (stops : List String) : Expression.Reader Target := fun symbols =>
  targets members stops (2 * symbols.length + 2) symbols

/-- The parameters of a procedure up to the closing parenthesis. -/
def parameters (hasDefault : Bool) : (fuel : Nat) → Expression.Reader (List Parameter)
  | 0, _ => .error "too many parameters"
  | fuel + 1, symbols =>
      match symbols with
      | .mark ")" :: rest => .ok ([], rest)
      | .name word :: rest => do
          let word ← assignable word
          let (default, rest) ←
            match rest with
            | .mark "=" :: rest => do
                let (value, rest) ← Expression.one rest
                .ok (some value, rest)
            | _ =>
                if hasDefault then .error "a parameter without a default after one with it"
                else .ok (none, rest)
          match rest with
          | .mark "," :: .mark ")" :: _ => .error "a parameter is expected"
          | .mark "," :: rest => do
              let (others, rest) ← parameters default.isSome fuel rest
              .ok (⟨word, default⟩ :: others, rest)
          | _ => .ok ([⟨word, default⟩], ← Expression.expect ")" rest)
      | _ => .error "a parameter is expected"

/-- A list of parameters in parentheses. -/
def signature : Expression.Reader (List Parameter) := fun symbols => do
  let rest ← Expression.expect "(" symbols
  parameters false (rest.length + 1) rest

/-- The filters of an expression, innermost first, down to the value they are applied to. -/
def filtersOf : Expression → List FilterUse → Expression × List FilterUse
  | .filter subject name arguments, later => filtersOf subject (⟨name, arguments⟩ :: later)
  | base, later => (base, later)

/-- Filters with vertical bars between them, the first bar left out. -/
def filterChain (symbols : List Symbol) : Result (List FilterUse) := do
  let (found, rest) ← Expression.one (.name "none" :: .mark "|" :: symbols)
  Expression.finish rest
  match filtersOf found [] with
  | (.none, filters) => .ok filters
  | _ => .error "filters are expected"

/-- What follows the name of a template that is loaded: whether variables are shared with it. -/
def sharing (standard : Bool) : List Symbol → Bool × List Symbol
  | .name "with" :: .name "context" :: rest => (true, rest)
  | .name "without" :: .name "context" :: rest => (false, rest)
  | rest => (standard, rest)

/-- A name that another template gives away; names with an underscore in front are its own. -/
def loadable (word : String) : Result String :=
  if word.startsWith "_" then .error "the name cannot be loaded" else assignable word

/-- Names of procedures with the names they get here, up to the end or to what says about sharing
variables. -/
def loadedNames : (fuel : Nat) → Expression.Reader (List (String × String))
  | 0, symbols => .ok ([], symbols)
  | fuel + 1, symbols =>
      match symbols with
      | .name "with" :: .name "context" :: _ | .name "without" :: .name "context" :: _ =>
          .ok ([], symbols)
      | .name word :: .name "as" :: .name other :: rest => do
          continueNames fuel (← loadable word, ← assignable other) rest
      | .name word :: rest => do continueNames fuel (← loadable word, word) rest
      | _ => .error "a name is expected"
where
  /-- The names after one of them. -/
  continueNames (fuel : Nat) (first : String × String) :
      Expression.Reader (List (String × String)) := fun symbols =>
    match symbols with
    | .mark "," :: rest => do
        let (others, rest) ← loadedNames fuel rest
        .ok (first :: others, rest)
    | _ => .ok ([first], symbols)

/-- Bindings with commas between them. -/
def bindings : (fuel : Nat) → List Symbol → Result (List (Target × Expression))
  | 0, _ => .error "too many bindings"
  | fuel + 1, symbols => do
      if symbols.isEmpty then .ok []
      else
        let (found, rest) ← targetsOf false [] symbols
        let (value, rest) ← Expression.one (← Expression.expect "=" rest)
        match rest with
        | [] => .ok [(found, value)]
        | [.mark ","] => .error "a binding is expected"
        | .mark "," :: rest => do .ok ((found, value) :: (← bindings fuel rest))
        | _ => .error "a comma is expected"

/-- Values with commas between them. -/
def printedValues : (fuel : Nat) → List Symbol → Result (List Expression)
  | 0, _ => .error "too many values"
  | fuel + 1, symbols => do
      if symbols.isEmpty then .ok []
      else
        let (value, rest) ← Expression.one symbols
        match rest with
        | [] => .ok [value]
        | [.mark ","] => .error "a value is expected"
        | .mark "," :: rest => do .ok (value :: (← printedValues fuel rest))
        | _ => .error "a comma is expected"

/-! ## Bodies -/

/-- Whether statements are nothing but white space. -/
def areBlank (statements : List Statement) : Bool :=
  statements.all fun statement => match statement with
    | .text s => Text.isBlankText s.toList
    | _ => false

/-- Drop a colon in front of the end of a tag. -/
def dropColon : List Symbol → List Symbol
  | [.mark ":"] => []
  | symbols => symbols

/-- A name that may stand at the front, and what follows it. -/
def dropName (word : String) : List Symbol → Bool × List Symbol
  | .name found :: rest => if found = word then (true, rest) else (false, .name found :: rest)
  | symbols => (false, symbols)

/-- Nothing but a colon may be left of a tag that a body follows. -/
def finishHead (symbols : List Symbol) : Result Unit := Expression.finish (dropColon symbols)

mutual

/-- The statements up to a tag that starts with one of some names, and that tag's symbols. -/
def body (ends : List String) : (fuel : Nat) → List Piece →
    Result (List Statement × List Symbol × List Piece)
  | 0, _ => .error "the template is too deep"
  | fuel + 1, pieces =>
      match pieces with
      | [] => if ends.isEmpty then .ok ([], [], []) else .error "the template ends too early"
      | .text value :: rest => do
          let (statements, found) ← body ends fuel rest
          .ok (.text value :: statements, found)
      | .output symbols :: rest => do
          let value ← Expression.ofOutput symbols
          let (statements, found) ← body ends fuel rest
          .ok (.print [value] :: statements, found)
      | .tag symbols :: rest => do
          if Expression.startsWithName ends symbols then .ok ([], symbols, rest)
          else
            let (statement, rest) ← statement symbols fuel rest
            let (statements, found) ← body ends fuel rest
            .ok (statement :: statements, found)

/-- The statements up to a closing tag with nothing else in it. -/
def closedBody (closing : String) : (fuel : Nat) → Reader (List Statement)
  | 0, _ => .error "the template is too deep"
  | fuel + 1, pieces => do
      let (statements, symbols, rest) ← body [closing] fuel pieces
      Expression.finish symbols.tail
      .ok (statements, rest)

/-- The statement of a tag. -/
def statement (symbols : List Symbol) : (fuel : Nat) → Reader Statement
  | 0, _ => .error "the template is too deep"
  | fuel + 1, pieces =>
      match symbols with
      | .name "if" :: rest => branches rest fuel pieces
      | .name "for" :: rest => loopOver rest fuel pieces
      | .name "set" :: rest => assignment rest fuel pieces
      | .name "macro" :: .name word :: rest => do
          let word ← assignable word
          let (found, rest) ← signature rest
          finishHead rest
          let (inner, after) ← closedBody "endmacro" fuel pieces
          .ok (.procedure word found inner, after)
      | .name "call" :: rest => do
          let (found, rest) ←
            match rest with
            | .mark "(" :: _ => signature rest
            | _ => .ok ([], rest)
          let (call, rest) ← Expression.one rest
          finishHead rest
          match call with
          | .call .. => do
              let (inner, after) ← closedBody "endcall" fuel pieces
              .ok (.callWith found call inner, after)
          | _ => .error "a call is expected"
      | .name "filter" :: rest => do
          let filters ← filterChain (if rest.getLast? = some (.mark ":") then rest.dropLast else rest)
          let (inner, after) ← closedBody "endfilter" fuel pieces
          .ok (.filtered filters inner, after)
      | .name "block" :: .name word :: rest => do
          let (isScoped, rest) := dropName "scoped" rest
          let (isRequired, rest) := dropName "required" rest
          finishHead rest
          let (inner, symbols, after) ← body ["endblock"] fuel pieces
          let named := symbols.tail
          Expression.finish (if named = [.name word] then [] else named)
          if isRequired && !areBlank inner then .error "a required part has a text of its own"
          else .ok (.block word isScoped isRequired inner, after)
      | .name "include" :: rest => do
          let (source, rest) ← Expression.one rest
          let (optional, rest) := match rest with
            | .name "ignore" :: .name "missing" :: rest => (true, rest)
            | _ => (false, rest)
          let (shared, rest) := sharing true rest
          Expression.finish rest
          .ok (.insert source optional shared, pieces)
      | .name "import" :: rest => do
          let (source, rest) ← Expression.one rest
          match rest with
          | .name "as" :: .name word :: rest => do
              let word ← assignable word
              let (shared, rest) := sharing false rest
              Expression.finish rest
              .ok (.load source word shared, pieces)
          | _ => .error "a name for the template is expected"
      | .name "from" :: rest => do
          let (source, rest) ← Expression.one rest
          match rest with
          | .name "import" :: rest => do
              let (names, rest) ← loadedNames rest.length rest
              let (shared, rest) := sharing false rest
              Expression.finish rest
              .ok (.loadNames source names shared, pieces)
          | _ => .error "names to load are expected"
      | .name "extends" :: rest => do
          let (source, rest) ← Expression.one rest
          Expression.finish rest
          .ok (.inherit source, pieces)
      | .name "with" :: rest => do
          let found ← bindings (rest.length + 1) (dropColon rest)
          let (inner, after) ← closedBody "endwith" fuel pieces
          .ok (.scope found inner, after)
      | .name "autoescape" :: rest => do
          let (value, rest) ← Expression.one rest
          finishHead rest
          let (inner, after) ← closedBody "endautoescape" fuel pieces
          .ok (.escape value inner, after)
      | .name "print" :: rest => do
          .ok (.print (← printedValues (rest.length + 1) rest), pieces)
      | _ => .error "an unknown tag"

/-- A condition with its branches. -/
def branches (symbols : List Symbol) : (fuel : Nat) → Reader Statement
  | 0, _ => .error "the template is too deep"
  | fuel + 1, pieces => do
      let (condition, rest) ← Expression.several false [] symbols
      finishHead rest
      let (inner, found, after) ← body ["elif", "else", "endif"] fuel pieces
      let (further, otherwise, after) ← furtherBranches found fuel after
      .ok (.branch condition inner further otherwise, after)

/-- The branches after the first one, the last of them without a condition. -/
def furtherBranches (symbols : List Symbol) : (fuel : Nat) → List Piece →
    Result (List (Expression × List Statement) × List Statement × List Piece)
  | 0, _ => .error "the template is too deep"
  | fuel + 1, pieces =>
      match symbols with
      | .name "elif" :: rest => do
          let (condition, rest) ← Expression.several false [] rest
          finishHead rest
          let (inner, found, after) ← body ["elif", "else", "endif"] fuel pieces
          let (further, otherwise, after) ← furtherBranches found fuel after
          .ok ((condition, inner) :: further, otherwise, after)
      | .name "else" :: rest => do
          finishHead rest
          let (otherwise, after) ← closedBody "endif" fuel pieces
          .ok ([], otherwise, after)
      | _ => do
          Expression.finish symbols.tail
          .ok ([], [], pieces)

/-- A loop. -/
def loopOver (symbols : List Symbol) : (fuel : Nat) → Reader Statement
  | 0, _ => .error "the template is too deep"
  | fuel + 1, pieces => do
      let (found, rest) ← targetsOf false ["in"] symbols
      match rest with
      | .name "in" :: rest => do
          let (items, rest) ← Expression.several false ["recursive"] rest
          let (condition, rest) ←
            match rest with
            | .name "if" :: rest => do
                let (value, rest) ← Expression.one rest
                .ok (some value, rest)
            | _ => .ok (none, rest)
          let (recursive, rest) := dropName "recursive" rest
          finishHead rest
          let (inner, closing, after) ← body ["endfor", "else"] fuel pieces
          if Expression.startsWithName ["else"] closing then
            finishHead closing.tail
            let (otherwise, after) ← closedBody "endfor" fuel after
            .ok (.loop found items condition recursive inner otherwise, after)
          else
            Expression.finish closing.tail
            .ok (.loop found items condition recursive inner [], after)
      | _ => .error "a loop needs items"

/-- An assignment of a value or of a body. -/
def assignment (symbols : List Symbol) : (fuel : Nat) → Reader Statement
  | 0, _ => .error "the template is too deep"
  | fuel + 1, pieces => do
      let (found, rest) ← targetsOf true [] symbols
      match rest with
      | .mark "=" :: rest => do
          let (value, rest) ← Expression.several true [] rest
          Expression.finish rest
          .ok (.assign found value, pieces)
      | _ => do
          let rest := dropColon rest
          let filters ←
            match rest with
            | .mark "|" :: rest => filterChain rest
            | [] => .ok []
            | _ => .error "a value to assign is expected"
          let (inner, after) ← closedBody "endset" fuel pieces
          .ok (.capture found filters inner, after)

end

/-- The statements of a template. -/
def ofPieces (pieces : List Piece) : Result (List Statement) :=
  (body [] (6 * pieces.length + 6) pieces).map (·.1)

end Statement

end ClientGen.Template
