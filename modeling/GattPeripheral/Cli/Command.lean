import GattPeripheral.Cli.Arguments

/-!
The commands of the program, and the command line that stands for each.
-/

namespace GattPeripheral.Cli

inductive ConfigAction where
  | set (key value : String)
  | get (key : String)
  | list
  | path
  deriving DecidableEq, Repr

structure RunOptions where
  /-- Takes the place of the configured adapter. -/
  adapter : Option String
  /-- Takes the place of the configured device name. -/
  name : Option String
  advertise : Bool
  /-- Whether the battery level goes up and down by itself. -/
  simulate : Bool
  deriving DecidableEq, Repr

inductive Command where
  | run (options : RunOptions)
  | status (adapter : Option String)
  | config (action : ConfigAction)
  | uuid (input : String)
  deriving DecidableEq, Repr

namespace Command

def adapterChoice : Choice := ⟨"adapter", some 'a', true⟩

def runUsage : Usage where
  choices :=
    [adapterChoice, ⟨"name", some 'n', true⟩, ⟨"no-advertise", none, false⟩,
     ⟨"simulate", none, false⟩]
  operands := []

def statusUsage : Usage := ⟨[adapterChoice], []⟩

def operandUsage (operands : List String) : Usage := ⟨[], operands⟩

def actionOperands : List (String × List String) :=
  [("set", ["KEY", "VALUE"]), ("get", ["KEY"]), ("list", []), ("path", [])]

def names : List (String × List String) :=
  [("run", []), ("status", []), ("config", actionOperands.map Prod.fst ++ ["help"]), ("uuid", []),
   ("help", [])]

def helpOn (group : List String) (topic : List String) : Stop :=
  let known : Bool :=
    match group ++ topic with
    | [] => true
    | [name] => names.any (·.1 == name)
    | [name, action] => names.any fun e => e.1 == name && e.2.contains action
    | _ => false
  if known then .help (group ++ topic)
  else .usage (.unknownCommand (topic.getLastD ""))

def readAction (arguments : List String) : Except Stop ConfigAction := do
  let group := ["config"]
  let (name, rest) ← Arguments.selectCommand group arguments
  if name = "help" then .error (helpOn group rest)
  else
    match actionOperands.lookup name with
    | none => .error (.usage (.unknownCommand name))
    | some operands =>
        let a ← Arguments.read (group ++ [name]) (operandUsage operands) rest
        match name, a.operands with
        | "set", [key, value] => return .set key value
        | "get", [key] => return .get key
        | "list", _ => return .list
        | _, _ => return .path

def read (arguments : List String) : Except Stop Command := do
  let (name, rest) ← Arguments.selectCommand [] arguments
  match name with
  | "run" => do
      let a ← Arguments.read [name] runUsage rest
      return .run
        { adapter := a.value? "adapter"
          name := a.value? "name"
          advertise := !a.has "no-advertise"
          simulate := a.has "simulate" }
  | "status" => do
      let a ← Arguments.read [name] statusUsage rest
      return .status (a.value? "adapter")
  | "config" => return .config (← readAction rest)
  | "uuid" => do
      let a ← Arguments.read [name] (operandUsage ["INPUT"]) rest
      return .uuid (a.operands.headD "")
  | "help" => .error (helpOn [] rest)
  | name => .error (.usage (.unknownCommand name))

end Command
end GattPeripheral.Cli
