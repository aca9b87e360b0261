import GattPeripheral.Cli.LogDirectory
import GattPeripheral.Config.Document
import GattPeripheral.Config.Settings
import GattPeripheral.Host.Lifecycle
import GattPeripheral.Profile

/-!
The console: what a command prints, keeps and reports.

A failure is a text with its causes behind it, and a program that breaks down says nothing more.
Devices that come and go leave a line when they are next looked for.
-/

namespace GattPeripheral.Cli

structure Failure where
  text : String
  /-- The failures behind it, the nearest first. -/
  causes : List String
  deriving DecidableEq, Repr

namespace Failure

def ofChain : List String → Failure
  | [] => ⟨"", []⟩
  | text :: causes => ⟨text, causes⟩

def within (context : String) (f : Failure) : Failure := ⟨context, f.text :: f.causes⟩

/-- A cause behind its label, with further lines indented by the label's width. -/
def hanging (label : String) (cause : String) : List Char :=
  label.toList ++ cause.toList.flatMap fun c =>
    if c = '\n' then c :: List.replicate label.length ' ' else [c]

/-- Several causes are numbered. -/
def labels (causes : List String) : List String :=
  if causes.length = 1 then ["    "]
  else (List.range causes.length).map fun n =>
    let digits := toString n
    String.ofList (List.replicate (5 - digits.length) ' ') ++ digits ++ ": "

def report (f : Failure) : String :=
  let behind :=
    if f.causes.isEmpty then []
    else "\n\nCaused by:".toList ++
      (List.zipWith hanging (labels f.causes) f.causes).flatMap ('\n' :: ·)
  "Error: " ++ f.text ++ String.ofList behind ++ "\n"

end Failure

inductive Halt where
  | failed (failure : Failure)
  | broken
  deriving DecidableEq, Repr

namespace Halt

def exitCode : Halt → Nat
  | failed _ => 1
  | broken => 101

def within (context : String) : Halt → Halt
  | failed f => .failed (f.within context)
  | broken => .broken

def report? : Halt → Option String
  | failed f => some f.report
  | broken => none

end Halt

structure Console (β : Type) where
  host : Host β
  connected : Bool
  lines : List String
  /-- How many of the host's events were looked through for devices that come and go. -/
  seen : Nat
  /-- The new text of the configuration file. -/
  saved : Option String
  layout : Layout
  logPlace : Option Place

def Console.open {β : Type} (bus : β) (connected : Bool) : Console β where
  host := .new bus .root .root .standard
  connected := connected
  lines := []
  seen := 0
  saved := none
  layout := .clear
  logPlace := none

/-- A part of a command: it halts with what it printed so far. -/
abbrev Act (β α : Type) := ExceptT Halt (StateM (Console β)) α

namespace Act

variable {β α : Type}

def print (line : String) : Act β Unit := modify fun c => { c with lines := c.lines ++ [line] }

def printAll (lines : List String) : Act β Unit :=
  modify fun c => { c with lines := c.lines ++ lines }

def save (text : String) : Act β Unit := modify fun c => { c with saved := some text }

def fail (f : Failure) : Act β α := throw (.failed f)

/-- A step of the host; the program breaks down with its bus. -/
def onHost [Transport β] (f : Host β → α × Host β) : Act β α := do
  let c ← get
  let (a, host) := f c.host
  set { c with host := host }
  if Transport.isBroken host.channel.bus then throw .broken
  return a

/-- The value of an outcome, or the failure that its error is. -/
def require {ε : Type} (chain : ε → List String) : Except ε α → Act β α
  | .ok a => pure a
  | .error e => fail (.ofChain (chain e))

/-- A failure of the inner act is the cause of one with this text. -/
def within (context : String) (act : Act β α) : Act β α :=
  tryCatch act fun halt => throw (halt.within context)

def noticeLine? : Event → Option String
  | .noticed (.connected address _) => some ("→ Central connected: " ++ address)
  | .noticed (.disconnected address _) => some ("← Central disconnected: " ++ address)
  | _ => none

def printNotices : Act β Unit := modify fun c =>
  let trace := c.host.channel.trace
  { c with
    lines := c.lines ++ (trace.drop c.seen).filterMap noticeLine?
    seen := trace.length }

end Act

/-- A label in a column of the given width, and a value behind it. -/
def column (width : Nat) (label value : String) : String :=
  "  " ++ label ++ String.ofList (List.replicate (width - label.length) ' ') ++ " " ++ value

end GattPeripheral.Cli
