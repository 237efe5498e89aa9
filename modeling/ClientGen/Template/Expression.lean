import ClientGen.Template.Symbol

/-!
# Expressions of templates

The expressions that stand in tags, and their grammar. Operators of one rank are read from left to
right; comparisons form chains; filters and tests bind tighter than any operator.
-/

namespace ClientGen.Template

/-- An operation on two numbers, texts or sequences. -/
inductive Operation where
  /-- Sum or concatenation. -/
  | add
  /-- Difference. -/
  | subtract
  /-- Product or repetition. -/
  | multiply
  /-- Quotient. -/
  | divide
  /-- Quotient rounded down. -/
  | floorDivide
  /-- Remainder. -/
  | modulo
  /-- Power. -/
  | power
  deriving DecidableEq, Repr

/-- A comparison of two values. -/
inductive Comparison where
  /-- Equality. -/
  | equal
  /-- Inequality. -/
  | different
  /-- Less. -/
  | less
  /-- Less or equal. -/
  | atMost
  /-- Greater. -/
  | greater
  /-- Greater or equal. -/
  | atLeast
  /-- Membership. -/
  | member
  /-- Absence. -/
  | absent
  deriving DecidableEq, Repr

/-- How an argument is passed. -/
inductive Passing where
  /-- By position. -/
  | positional
  /-- By name. -/
  | named (name : String)
  /-- All items of a sequence by position. -/
  | spread
  /-- All entries of a mapping by name. -/
  | spreadNamed
  deriving DecidableEq, Repr

/-- An expression over names of some kind. -/
inductive Term (Name : Type) where
  /-- The absent value. -/
  | none
  /-- A truth value. -/
  | bool (value : Bool)
  /-- An integer. -/
  | integer (value : Nat)
  /-- A floating-point number. -/
  | decimal (value : Double)
  /-- Text. -/
  | text (value : String)
  /-- A variable. -/
  | name (name : Name)
  /-- A sequence in parentheses. -/
  | tuple (items : List (Term Name))
  /-- A sequence in brackets. -/
  | list (items : List (Term Name))
  /-- A mapping. -/
  | map (entries : List (Term Name × Term Name))
  /-- A member by its name. -/
  | member (subject : Term Name) (name : String)
  /-- An item by its key or position. -/
  | item (subject key : Term Name)
  /-- The key of a part of a sequence: first position, end and step. -/
  | bounds (start stop step : Option (Term Name))
  /-- A call. -/
  | call (subject : Term Name) (arguments : List (Passing × Term Name))
  /-- A filter applied to a value. -/
  | filter (subject : Term Name) (name : String) (arguments : List (Passing × Term Name))
  /-- A test of a value. -/
  | test (subject : Term Name) (name : String) (arguments : List (Passing × Term Name))
  /-- Negation. -/
  | not (operand : Term Name)
  /-- The number with the opposite sign. -/
  | negative (operand : Term Name)
  /-- The number itself. -/
  | positive (operand : Term Name)
  /-- An operation. -/
  | binary (operation : Operation) (left right : Term Name)
  /-- The texts of several values, one after the other. If they are escaped, plain texts next to
  marked ones are. -/
  | concat (escaped : Bool) (items : List (Term Name))
  /-- The first operand if it counts as false, else the second. -/
  | and (left right : Term Name)
  /-- The first operand if it counts as true, else the second. -/
  | or (left right : Term Name)
  /-- A chain of comparisons. -/
  | compare (first : Term Name) (rest : List (Comparison × Term Name))
  /-- One of two values. -/
  | choice (condition chosen : Term Name) (otherwise : Option (Term Name))
  /-- A number that no literal denotes; it has no value. -/
  | unwritable
  deriving Repr, Inhabited

/-- An expression as a source spells it. -/
abbrev Expression := Term String

namespace Expression

/-- A reader of symbols. -/
abbrev Reader (α : Type) := List Symbol → Result (α × List Symbol)

/-- Arguments of a call. -/
abbrev Arguments := List (Passing × Expression)

/-! ## Ranks of operators -/

/-- Operands of one rank joined from left to right, after the first of them. -/
def chain (operand : Reader Expression)
    (join? : Symbol → Option (Expression → Expression → Expression)) :
    (fuel : Nat) → Expression → Reader Expression
  | 0, left, symbols => .ok (left, symbols)
  | fuel + 1, left, symbols =>
      match symbols with
      | [] => .ok (left, [])
      | symbol :: rest =>
          match join? symbol with
          | .none => .ok (left, symbols)
          | some join => do
              let (right, rest) ← operand rest
              chain operand join? fuel (join left right) rest

/-- Operands of one rank. -/
def ranked (operand : Reader Expression)
    (join? : Symbol → Option (Expression → Expression → Expression)) : Reader Expression :=
  fun symbols => do
    let (left, rest) ← operand symbols
    chain operand join? rest.length left rest

/-- The operation of a mark. -/
def operation? (operations : List (String × Operation)) (symbol : Symbol) :
    Option (Expression → Expression → Expression) :=
  operations.findSome? fun (mark, operation) =>
    if symbol = .mark mark then some (.binary operation) else .none

/-- Powers. -/
def power (operand : Reader Expression) : Reader Expression :=
  ranked operand (operation? [("**", .power)])

/-- Products and quotients. -/
def product (operand : Reader Expression) : Reader Expression :=
  ranked (power operand) (operation?
    [("*", .multiply), ("/", .divide), ("//", .floorDivide), ("%", .modulo)])

/-- The further texts of a concatenation. -/
def concatRest (operand : Reader Expression) : (fuel : Nat) → Reader (List Expression)
  | 0, symbols => .ok ([], symbols)
  | fuel + 1, symbols =>
      match symbols with
      | .mark "~" :: rest => do
          let (next, rest) ← operand rest
          let (others, rest) ← concatRest operand fuel rest
          .ok (next :: others, rest)
      | _ => .ok ([], symbols)

/-- Concatenations. -/
def concatenation (operand : Reader Expression) : Reader Expression := fun symbols => do
  let (first, rest) ← product operand symbols
  let (items, rest) ← concatRest (product operand) rest.length rest
  .ok (if items.isEmpty then first else .concat false (first :: items), rest)

/-- Sums and differences. -/
def sum (operand : Reader Expression) : Reader Expression :=
  ranked (concatenation operand) (operation? [("+", .add), ("-", .subtract)])

/-- The comparison at the front of symbols. -/
def comparison? : List Symbol → Option (Comparison × List Symbol)
  | .name "not" :: .name "in" :: rest => some (.absent, rest)
  | .name "in" :: rest => some (.member, rest)
  | .mark "==" :: rest => some (.equal, rest)
  | .mark "!=" :: rest => some (.different, rest)
  | .mark "<" :: rest => some (.less, rest)
  | .mark "<=" :: rest => some (.atMost, rest)
  | .mark ">" :: rest => some (.greater, rest)
  | .mark ">=" :: rest => some (.atLeast, rest)
  | _ => .none

/-- The further operands of a chain of comparisons. -/
def compareRest (operand : Reader Expression) :
    (fuel : Nat) → Reader (List (Comparison × Expression))
  | 0, symbols => .ok ([], symbols)
  | fuel + 1, symbols =>
      match comparison? symbols with
      | some (comparison, rest) => do
          let (right, rest) ← sum operand rest
          let (others, rest) ← compareRest operand fuel rest
          .ok ((comparison, right) :: others, rest)
      | .none => .ok ([], symbols)

/-- Chains of comparisons. -/
def comparisons (operand : Reader Expression) : Reader Expression := fun symbols => do
  let (first, rest) ← sum operand symbols
  let (others, rest) ← compareRest operand rest.length rest
  .ok (if others.isEmpty then first else .compare first others, rest)

/-- Negations. -/
def negation (operand : Reader Expression) : (fuel : Nat) → Reader Expression
  | fuel + 1, .name "not" :: rest => do
      let (inner, rest) ← negation operand fuel rest
      .ok (.not inner, rest)
  | _, symbols => comparisons operand symbols

/-- A keyword that joins two operands. -/
def keyword? (word : String) (join : Expression → Expression → Expression) (symbol : Symbol) :
    Option (Expression → Expression → Expression) :=
  if symbol = .name word then some join else .none

/-- Conjunctions. -/
def conjunction (operand : Reader Expression) : Reader Expression := fun symbols =>
  ranked (negation operand symbols.length) (keyword? "and" .and) symbols

/-- Disjunctions, the widest expressions without a choice. -/
def disjunction (operand : Reader Expression) : Reader Expression :=
  ranked (conjunction operand) (keyword? "or" .or)

/-! ## Parts that need no recursion -/

/-- Pass a mark. -/
def expect (mark : String) (symbols : List Symbol) : Result (List Symbol) :=
  match symbols with
  | .mark found :: rest => if found = mark then .ok rest else .error ("expected " ++ mark)
  | _ => .error ("expected " ++ mark)

/-- The further parts of a text literal in several parts. -/
def textParts : List Symbol → String × List Symbol
  | .text part :: rest =>
      let (parts, rest) := textParts rest
      (part ++ parts, rest)
  | rest => ("", rest)

/-- What a name denotes as an expression. -/
def ofName (word : String) : Expression :=
  if word = "true" || word = "True" then .bool true
  else if word = "false" || word = "False" then .bool false
  else if word = "none" || word = "None" then .none
  else .name word

/-- A name with points in it. -/
def dottedName : (fuel : Nat) → Reader String
  | fuel + 1, .name first :: .mark "." :: rest => do
      let (others, rest) ← dottedName fuel rest
      .ok (first ++ "." ++ others, rest)
  | _, .name first :: rest => .ok (first, rest)
  | _, _ => .error "expected a name"

/-- Whether symbols start with one of some names. -/
def startsWithName (names : List String) : List Symbol → Bool
  | .name found :: _ => names.contains found
  | _ => false

/-- Whether the argument of a test without parentheses starts here. -/
def startsTestArgument : List Symbol → Bool
  | .name found :: _ => !(["else", "or", "and"].contains found)
  | .text _ :: _ | .integer _ :: _ | .decimal _ :: _ => true
  | .mark found :: _ => found == "[" || found == "\x7b"
  | [] => false

/-- Whether a sequence without parentheses ends here. -/
def endsSequence (stops : List String) : List Symbol → Bool
  | [] => true
  | .mark found :: _ => found == ")"
  | symbols => startsWithName stops symbols

/-- Whether an argument may follow the arguments so far. -/
def admits (arguments : Arguments) (passing : Passing) : Bool :=
  let has (p : Passing → Bool) := arguments.any fun (found, _) => p found
  let spread := has (· == .spread)
  let spreadNamed := has (· == .spreadNamed)
  match passing with
  | .positional =>
      !spread && !spreadNamed && !has fun found => match found with
        | .named _ => true
        | _ => false
  | .named _ | .spreadNamed => !spreadNamed
  | .spread => !spread && !spreadNamed

/-! ## Expressions -/

mutual

/-- An expression, with a choice at its top if that is allowed. -/
def read (choices : Bool) : (fuel : Nat) → Reader Expression
  | 0, _ => .error "the expression is too deep"
  | fuel + 1, symbols => do
      let (first, rest) ← disjunction (unary true fuel) symbols
      if choices then conditions first fuel rest else .ok (first, rest)

/-- The conditions after a value. -/
def conditions (chosen : Expression) : (fuel : Nat) → Reader Expression
  | 0, _ => .error "the expression is too deep"
  | fuel + 1, symbols =>
      match symbols with
      | .name "if" :: rest => do
          let (condition, rest) ← disjunction (unary true fuel) rest
          let (otherwise, rest) ←
            match rest with
            | .name "else" :: rest => do
                let (other, rest) ← read true fuel rest
                .ok (some other, rest)
            | _ => .ok (.none, rest)
          conditions (.choice condition chosen otherwise) fuel rest
      | _ => .ok (chosen, symbols)

/-- A value with signs in front and with filters and tests after it, if those are allowed. -/
def unary (filters : Bool) : (fuel : Nat) → Reader Expression
  | 0, _ => .error "the expression is too deep"
  | fuel + 1, symbols => do
      let (operand, rest) ←
        match symbols with
        | .mark "-" :: rest => do
            let (inner, rest) ← unary false fuel rest
            .ok (.negative inner, rest)
        | .mark "+" :: rest => do
            let (inner, rest) ← unary false fuel rest
            .ok (.positive inner, rest)
        | _ => primary fuel symbols
      let (operand, rest) ← members operand fuel rest
      if filters then filtered operand fuel rest else .ok (operand, rest)

/-- A literal, a name or something in brackets. -/
def primary : (fuel : Nat) → Reader Expression
  | 0, _ => .error "the expression is too deep"
  | fuel + 1, symbols =>
      match symbols with
      | .name word :: rest => .ok (ofName word, rest)
      | .text _ :: _ =>
          let (value, rest) := textParts symbols
          .ok (.text value, rest)
      | .integer value :: rest => .ok (.integer value, rest)
      | .decimal value :: rest => .ok (.decimal value, rest)
      | .mark "(" :: rest => do
          let (inner, rest) ← sequence true true [] fuel rest
          .ok (inner, ← expect ")" rest)
      | .mark "[" :: rest => do
          let (items, rest) ← listItems fuel rest
          .ok (.list items, rest)
      | .mark "\x7b" :: rest => do
          let (entries, rest) ← mapEntries fuel rest
          .ok (.map entries, rest)
      | _ => .error "an expression is expected"

/-- One expression, or several with commas between them. -/
def sequence (choices parenthesised : Bool) (stops : List String) :
    (fuel : Nat) → Reader Expression
  | 0, _ => .error "the expression is too deep"
  | fuel + 1, symbols => do
      let (items, several, rest) ← sequenceItems choices stops fuel symbols
      match items, several with
      | [only], false => .ok (only, rest)
      | [], _ =>
          if parenthesised then .ok (.tuple [], rest) else .error "an expression is expected"
      | items, _ => .ok (.tuple items, rest)

/-- The items of a sequence, and whether there is a comma among them. -/
def sequenceItems (choices : Bool) (stops : List String) :
    (fuel : Nat) → List Symbol → Result (List Expression × Bool × List Symbol)
  | 0, _ => .error "the expression is too deep"
  | fuel + 1, symbols => do
      if endsSequence stops symbols then .ok ([], false, symbols)
      else
        let (next, rest) ← read choices fuel symbols
        match rest with
        | .mark "," :: rest => do
            let (items, _, rest) ← sequenceItems choices stops fuel rest
            .ok (next :: items, true, rest)
        | _ => .ok ([next], false, rest)

/-- The items of a list up to its bracket. -/
def listItems : (fuel : Nat) → Reader (List Expression)
  | 0, _ => .error "the expression is too deep"
  | fuel + 1, symbols =>
      match symbols with
      | .mark "]" :: rest => .ok ([], rest)
      | _ => do
          let (next, rest) ← read true fuel symbols
          match rest with
          | .mark "," :: rest => do
              let (items, rest) ← listItems fuel rest
              .ok (next :: items, rest)
          | _ => .ok ([next], ← expect "]" rest)

/-- The entries of a mapping up to its brace. -/
def mapEntries : (fuel : Nat) → Reader (List (Expression × Expression))
  | 0, _ => .error "the expression is too deep"
  | fuel + 1, symbols =>
      match symbols with
      | .mark "\x7d" :: rest => .ok ([], rest)
      | _ => do
          let (key, rest) ← read true fuel symbols
          let (value, rest) ← read true fuel (← expect ":" rest)
          match rest with
          | .mark "," :: rest => do
              let (entries, rest) ← mapEntries fuel rest
              .ok ((key, value) :: entries, rest)
          | _ => .ok ([(key, value)], ← expect "\x7d" rest)

/-- Members, items and calls after a value. -/
def members (subject : Expression) : (fuel : Nat) → Reader Expression
  | 0, _ => .error "the expression is too deep"
  | fuel + 1, symbols =>
      match symbols with
      | .mark "." :: .name word :: rest => members (.member subject word) fuel rest
      | .mark "." :: .integer position :: rest =>
          members (.item subject (.integer position)) fuel rest
      | .mark "." :: _ => .error "a member is expected"
      | .mark "[" :: rest => do
          let (found, rest) ← subscript subject fuel rest
          members found fuel rest
      | .mark "(" :: rest => do
          let (found, rest) ← arguments [] fuel rest
          members (.call subject found) fuel rest
      | _ => .ok (subject, symbols)

/-- The item or the part of a sequence that brackets ask for. -/
def subscript (subject : Expression) : (fuel : Nat) → Reader Expression
  | 0, _ => .error "the expression is too deep"
  | fuel + 1, symbols => do
      let (keys, rest) ← keys fuel symbols
      match keys with
      | [key] => .ok (.item subject key, rest)
      | keys => .ok (.item subject (.tuple keys), rest)

/-- The keys with commas between them up to the closing bracket. -/
def keys : (fuel : Nat) → Reader (List Expression)
  | 0, _ => .error "the expression is too deep"
  | fuel + 1, symbols =>
      match symbols with
      | .mark "]" :: rest => .ok ([], rest)
      | _ => do
          let (first, rest) ← key fuel symbols
          match rest with
          | .mark "," :: .mark "]" :: _ => .error "an expression is expected"
          | .mark "," :: rest => do
              let (others, rest) ← keys fuel rest
              .ok (first :: others, rest)
          | _ => .ok ([first], ← expect "]" rest)

/-- A key, or the bounds of a part with colons between them. -/
def key : (fuel : Nat) → Reader Expression
  | 0, _ => .error "the expression is too deep"
  | fuel + 1, symbols => do
      let (start, rest) ←
        match symbols with
        | .mark ":" :: _ => .ok (.none, symbols)
        | _ => do
            let (found, rest) ← read true fuel symbols
            .ok (some found, rest)
      match start, rest with
      | start, .mark ":" :: rest => do
          let (stop, rest) ← bound fuel rest
          let (step, rest) ←
            match rest with
            | .mark ":" :: rest => bound fuel rest
            | _ => .ok (.none, rest)
          .ok (.bounds start stop step, rest)
      | some found, rest => .ok (found, rest)
      | .none, _ => .error "an expression is expected"

/-- A bound of a part of a sequence, which may be missing. -/
def bound : (fuel : Nat) → Reader (Option Expression)
  | 0, _ => .error "the expression is too deep"
  | fuel + 1, symbols =>
      match symbols with
      | .mark "]" :: _ | .mark ":" :: _ | .mark "," :: _ => .ok (.none, symbols)
      | _ => do
          let (found, rest) ← read true fuel symbols
          .ok (some found, rest)

/-- The arguments of a call up to its parenthesis, after those already read. -/
def arguments (before : Arguments) : (fuel : Nat) → Reader Arguments
  | 0, _ => .error "the expression is too deep"
  | fuel + 1, symbols =>
      match symbols with
      | .mark ")" :: rest => .ok (before, rest)
      | _ => do
          let (passing, rest) := match symbols with
            | .mark "*" :: rest => (Passing.spread, rest)
            | .mark "**" :: rest => (.spreadNamed, rest)
            | .name word :: .mark "=" :: rest => (.named word, rest)
            | _ => (.positional, symbols)
          if !admits before passing then .error "arguments in a wrong order"
          else
            let (found, rest) ← read true fuel rest
            let all := before ++ [(passing, found)]
            match rest with
            | .mark "," :: rest => arguments all fuel rest
            | _ => .ok (all, ← expect ")" rest)

/-- Filters and tests after a value. -/
def filtered (subject : Expression) : (fuel : Nat) → Reader Expression
  | 0, _ => .error "the expression is too deep"
  | fuel + 1, symbols =>
      match symbols with
      | .mark "|" :: rest => do
          let (word, rest) ← dottedName rest.length rest
          let (found, rest) ← optionalArguments fuel rest
          filtered (.filter subject word found) fuel rest
      | .name "is" :: .name "not" :: rest => do
          let (found, rest) ← tested subject fuel rest
          filtered (.not found) fuel rest
      | .name "is" :: rest => do
          let (found, rest) ← tested subject fuel rest
          filtered found fuel rest
      | .mark "(" :: rest => do
          let (found, rest) ← arguments [] fuel rest
          filtered (.call subject found) fuel rest
      | _ => .ok (subject, symbols)

/-- Arguments in parentheses, if there are any. -/
def optionalArguments : (fuel : Nat) → Reader Arguments
  | 0, _ => .error "the expression is too deep"
  | fuel + 1, symbols =>
      match symbols with
      | .mark "(" :: rest => arguments [] fuel rest
      | _ => .ok ([], symbols)

/-- The name and the arguments of a test. -/
def tested (subject : Expression) : (fuel : Nat) → Reader Expression
  | 0, _ => .error "the expression is too deep"
  | fuel + 1, symbols => do
      let (word, rest) ← dottedName symbols.length symbols
      if startsWithName ["is"] rest then .error "tests cannot be chained"
      else if startsTestArgument rest then
        let (operand, rest) ← primary fuel rest
        let (operand, rest) ← members operand fuel rest
        .ok (.test subject word [(.positional, operand)], rest)
      else
        let (found, rest) ← optionalArguments fuel rest
        .ok (.test subject word found, rest)

end

/-- A bound on the depth of an expression. -/
def depthBound (symbols : List Symbol) : Nat := 6 * symbols.length + 12

/-- An expression without commas. -/
def one : Reader Expression := fun symbols => read true (depthBound symbols) symbols

/-- One or more expressions with commas between them. -/
def several (choices : Bool) (stops : List String) : Reader Expression := fun symbols =>
  sequence choices false stops (depthBound symbols) symbols

/-- Nothing may be left of a tag. -/
def finish (symbols : List Symbol) : Result Unit :=
  if symbols.isEmpty then .ok () else .error "unexpected symbols at the end of a tag"

/-- The expression of a tag that prints it. -/
def ofOutput (symbols : List Symbol) : Result Expression := do
  let (found, rest) ← several true [] symbols
  finish rest
  .ok found

end Expression

end ClientGen.Template
