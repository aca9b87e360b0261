/-!
The arguments of a command.

An argument that starts with a dash is an option: a long name behind two dashes, or letters behind one.
A value belongs to an option by `=`, by following the letter, or as the next argument, which may not
look like an option. Behind `--` all arguments are operands. An option is given once at most.
-/

namespace GattPeripheral.Cli

structure Choice where
  long : String
  letter : Option Char
  takesValue : Bool
  deriving DecidableEq, Repr

structure Usage where
  choices : List Choice
  /-- The operands, each of which has to be given. -/
  operands : List String

inductive UsageError where
  | unexpected (argument : String)
  | missingValue (option : String)
  | repeated (option : String)
  | missingOperand (name : String)
  | missingCommand
  | unknownCommand (name : String)
  deriving DecidableEq, Repr

def UsageError.message : UsageError → String
  | unexpected argument => "unexpected argument '" ++ argument ++ "' found"
  | missingValue option => "a value is required for '--" ++ option ++ "' but none was supplied"
  | repeated option => "the argument '--" ++ option ++ "' cannot be used multiple times"
  | missingOperand name => "the argument <" ++ name ++ "> was not provided"
  | missingCommand => "a subcommand is required but none was provided"
  | unknownCommand name => "unrecognized subcommand '" ++ name ++ "'"

/-- Why a command line does not lead to a command. -/
inductive Stop where
  | usage (error : UsageError)
  | help (command : List String)
  | version
  deriving DecidableEq, Repr

structure Arguments where
  /-- The option that waits for its value. -/
  pending : Option Choice
  /-- Whether all further arguments are operands. -/
  literal : Bool
  given : List (String × String)
  operands : List String

namespace Arguments

def none : Arguments := ⟨.none, false, [], []⟩

def value? (a : Arguments) (option : String) : Option String := a.given.lookup option

def has (a : Arguments) (option : String) : Bool := (a.value? option).isSome

def unexpected {α : Type} (argument : String) : Except Stop α :=
  .error (.usage (.unexpected argument))

def give (a : Arguments) (choice : Choice) (value : String) : Except Stop Arguments :=
  if a.has choice.long then .error (.usage (.repeated choice.long))
  else .ok { a with pending := .none, given := a.given ++ [(choice.long, value)] }

def takeLong (command : List String) (usage : Usage) (a : Arguments) (argument : String)
    (text : List Char) : Except Stop Arguments :=
  let name := String.ofList (text.takeWhile (· ≠ '='))
  let value := (text.dropWhile (· ≠ '=')).tail
  let attached := text.contains '='
  match usage.choices.find? (·.long == name) with
  | some choice =>
      if choice.takesValue then
        if attached then a.give choice (String.ofList value)
        else .ok { a with pending := some choice }
      else if attached then unexpected argument
      else a.give choice ""
  | .none => if name = "help" && !attached then .error (.help command) else unexpected argument

/-- Letters behind one dash; the rest of the letters is the value of an option that takes one. -/
def takeLetters (command : List String) (usage : Usage) (argument : String) :
    List Char → Arguments → Except Stop Arguments
  | [], a => .ok a
  | letter :: rest, a =>
      match usage.choices.find? (·.letter == some letter) with
      | some choice =>
          if choice.takesValue then
            match rest with
            | [] => .ok { a with pending := some choice }
            | '=' :: value => a.give choice (String.ofList value)
            | value => a.give choice (String.ofList value)
          else do takeLetters command usage argument rest (← a.give choice "")
      | .none => if letter = 'h' then .error (.help command) else unexpected argument

def takeOperand (usage : Usage) (a : Arguments) (argument : String) : Except Stop Arguments :=
  if a.operands.length < usage.operands.length then
    .ok { a with operands := a.operands ++ [argument] }
  else unexpected argument

/-- An option cannot come where a value is due. -/
def nonePending (a : Arguments) : Except Stop Unit :=
  match a.pending with
  | some choice => .error (.usage (.missingValue choice.long))
  | .none => .ok ()

def take (command : List String) (usage : Usage) (a : Arguments) (argument : String) :
    Except Stop Arguments := do
  if a.literal then
    a.nonePending
    a.takeOperand usage argument
  else
    match argument.toList with
    | ['-', '-'] => return { a with literal := true }
    | '-' :: '-' :: text => do
        a.nonePending
        a.takeLong command usage argument text
    | '-' :: letter :: letters => do
        a.nonePending
        takeLetters command usage argument (letter :: letters) a
    | _ =>
        match a.pending with
        | some choice => a.give choice argument
        | .none => a.takeOperand usage argument

def read (command : List String) (usage : Usage) (arguments : List String) :
    Except Stop Arguments := do
  let a ← arguments.foldlM (take command usage) .none
  a.nonePending
  match usage.operands[a.operands.length]? with
  | some name => .error (.usage (.missingOperand name))
  | .none => return a

/-- The name of a command at the head of the arguments, and the arguments behind it. -/
def selectCommand (group : List String) : List String → Except Stop (String × List String)
  | [] => .error (.usage .missingCommand)
  | argument :: rest =>
      let isTop := group.isEmpty
      match argument.toList with
      | ['-', '-'] =>
          match rest with
          | [] => .error (.usage .missingCommand)
          | operand :: _ => unexpected operand
      | '-' :: '-' :: _ =>
          if argument = "--help" then .error (.help group)
          else if isTop && argument = "--version" then .error .version
          else unexpected argument
      | '-' :: letter :: _ =>
          if letter = 'h' then .error (.help group)
          else if isTop && letter = 'V' then .error .version
          else unexpected argument
      | _ => .ok (argument, rest)

end Arguments
end GattPeripheral.Cli
