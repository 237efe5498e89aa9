import ClientGen.Text.Basic

/-!
# Arguments

A command line is read as options and operands. An option has a long name and perhaps a letter; its
value may follow in the same argument or be the next one. Letters may share one argument as long as
only the last of them takes a value. Two minus signs on their own end the options.
-/

namespace ClientGen.CommandLine

/-- An option that a command understands. -/
structure OptionForm where
  /-- The long name, its two minus signs included. -/
  long : String
  /-- The letter. -/
  letter : Option Char
  /-- Whether it takes a value. -/
  takesValue : Bool
  deriving DecidableEq, Repr

namespace OptionForm

/-- An option without a value and without a letter. -/
def flag (long : String) : OptionForm := ⟨long, none, false⟩

/-- An option without a value. -/
def letterFlag (long : String) (letter : Char) : OptionForm := ⟨long, some letter, false⟩

/-- An option with a value and without a letter. -/
def valued (long : String) : OptionForm := ⟨long, none, true⟩

/-- An option with a value. -/
def letterValued (long : String) (letter : Char) : OptionForm := ⟨long, some letter, true⟩

end OptionForm

/-- An option that was set. -/
structure OptionUse where
  /-- The long name of the option. -/
  long : String
  /-- Its value, empty for an option that takes none. -/
  value : String
  deriving DecidableEq, Repr

/-- Why a command line cannot be carried out. -/
inductive Complaint where
  /-- There is no such option. -/
  | unknownOption (name : String)
  /-- An option comes last and needs a value. -/
  | missingValue (name : String)
  /-- An option has a value and takes none. -/
  | unexpectedValue (name : String)
  /-- No command is named. -/
  | missingCommand
  /-- There is no such command. -/
  | unknownCommand (name : String)
  /-- The document is not named. -/
  | missingOperand
  /-- There are more operands than one. -/
  | extraOperands (operands : List String)
  /-- An option has a value that it cannot have. -/
  | invalidChoice (name value : String)
  deriving DecidableEq, Repr

/-- The wording of a complaint. -/
def Complaint.message : Complaint → String
  | .unknownOption name => "No such option: " ++ name
  | .missingValue name => "Option '" ++ name ++ "' requires an argument."
  | .unexpectedValue name => "Option '" ++ name ++ "' does not take a value."
  | .missingCommand => "Missing command."
  | .unknownCommand name => "No such command '" ++ name ++ "'."
  | .missingOperand => "Missing argument 'SPEC'."
  | .extraOperands operands =>
      "Got unexpected extra arguments (" ++ Text.joinStrings " " operands ++ ")"
  | .invalidChoice name value => "Invalid value for '" ++ name ++ "': '" ++ value ++ "'"

/-! ## One argument -/

/-- What one argument says on its own. -/
inductive Reading where
  /-- Two minus signs. -/
  | endOfOptions
  /-- An operand. -/
  | operand
  /-- Options that are complete. -/
  | complete (uses : List OptionUse)
  /-- Complete options, then one that takes the next argument as its value. -/
  | pending (uses : List OptionUse) (form : OptionForm) (spelling : String)
  /-- A complaint. -/
  | refused (complaint : Complaint)
  deriving DecidableEq, Repr

namespace Reading

/-- Put a use in front of a reading. -/
def after (use : OptionUse) : Reading → Reading
  | .complete uses => .complete (use :: uses)
  | .pending uses form spelling => .pending (use :: uses) form spelling
  | reading => reading

end Reading

/-- The option with a letter. -/
def ofLetter? (forms : List OptionForm) (letter : Char) : Option OptionForm :=
  forms.find? fun form => form.letter == some letter

/-- The option with a long name. -/
def ofLong? (forms : List OptionForm) (name : String) : Option OptionForm :=
  forms.find? fun form => form.long == name

/-- Read letters; the first that takes a value takes what is left as its value. -/
def readLetters (forms : List OptionForm) : List Char → Reading
  | [] => .complete []
  | letter :: rest =>
      let spelling := String.ofList ['-', letter]
      match ofLetter? forms letter with
      | none => .refused (.unknownOption spelling)
      | some form =>
          if !form.takesValue then (readLetters forms rest).after ⟨form.long, ""⟩
          else if rest.isEmpty then .pending [] form spelling
          else .complete [⟨form.long, String.ofList rest⟩]

/-- Read a long name with the value behind its equals sign, if any. -/
def readLong (form : OptionForm) : Option (List Char) → Reading
  | none => if form.takesValue then .pending [] form form.long else .complete [⟨form.long, ""⟩]
  | some value =>
      if form.takesValue then .complete [⟨form.long, String.ofList value⟩]
      else .refused (.unexpectedValue form.long)

/-- The name and the value of an argument with an equals sign, or the name alone. -/
def cutValue (argument : List Char) : List Char × Option (List Char) :=
  match Text.cutAt? '=' argument with
  | some (name, value) => (name, some value)
  | none => (argument, none)

/-- Read an argument that starts with a minus sign. -/
def readOption (forms : List OptionForm) (argument : List Char) : Reading :=
  let (name, value) := cutValue argument
  match ofLong? forms (String.ofList name), argument with
  | some form, _ => readLong form value
  | none, '-' :: '-' :: _ => .refused (.unknownOption (String.ofList name))
  | none, _ => readLetters forms (argument.drop 1)

/-- Read one argument. -/
def readArgument (forms : List OptionForm) (argument : String) : Reading :=
  match argument.toList with
  | ['-', '-'] => .endOfOptions
  | '-' :: c :: rest => readOption forms ('-' :: c :: rest)
  | _ => .operand

/-! ## All arguments -/

/-- The options and operands of a command line. -/
structure Arguments where
  /-- The options in order. -/
  uses : List OptionUse
  /-- The operands in order. -/
  operands : List String
  deriving DecidableEq, Repr

namespace Arguments

/-- Put uses in front. -/
def addUses (uses : List OptionUse) (arguments : Arguments) : Arguments :=
  { arguments with uses := uses ++ arguments.uses }

/-- Put an operand in front. -/
def addOperand (operand : String) (arguments : Arguments) : Arguments :=
  { arguments with operands := operand :: arguments.operands }

/-- Read a command line. Unless options may follow operands, the first operand ends them. -/
def read (forms : List OptionForm) (mixed : Bool) : List String → Except Complaint Arguments
  | [] => .ok ⟨[], []⟩
  | argument :: rest =>
      match readArgument forms argument with
      | .endOfOptions => .ok ⟨[], rest⟩
      | .operand =>
          if mixed then (read forms mixed rest).map (addOperand argument)
          else .ok ⟨[], argument :: rest⟩
      | .complete uses => (read forms mixed rest).map (addUses uses)
      | .pending uses form spelling =>
          match rest with
          | [] => .error (.missingValue spelling)
          | value :: others =>
              (read forms mixed others).map (addUses (uses ++ [⟨form.long, value⟩]))
      | .refused complaint => .error complaint

/-- Whether an option is set. -/
def has (arguments : Arguments) (long : String) : Bool :=
  arguments.uses.any fun use => use.long == long

/-- The value that an option has in the end. -/
def value? (arguments : Arguments) (long : String) : Option String :=
  ((arguments.uses.filter fun use => use.long == long).getLast?).map OptionUse.value

end Arguments

end ClientGen.CommandLine
