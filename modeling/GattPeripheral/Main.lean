import GattPeripheral.Cli.Help
import GattPeripheral.Cli.Program
import GattPeripheral.Wire.Link

/-!
The program: reads the configuration file, carries out the command and writes what it leaves behind.
-/

namespace GattPeripheral.Cli

def configHome : IO String := do
  match ← IO.getEnv "XDG_CONFIG_HOME" with
  | some home => if home.toList.head? = some '/' then return home else fallback
  | none => fallback
where
  fallback : IO String := return (← IO.getEnv "HOME").getD "" ++ "/.config"

/-- The text of a file; `none` if there is no such file. -/
def readText? (location : String) : IO (Option String) := do
  try return some (← IO.FS.readFile location)
  catch
    | .noFileOrDirectory .. => return none
    | e => throw e

def runProgram (arguments : List String) : IO UInt32 := do
  match Command.read arguments with
  | .error stop =>
      stop.lines.forM IO.println
      match stop with
      | .usage e => IO.eprintln ("error: " ++ e.message)
      | _ => pure ()
      return UInt32.ofNat stop.exitCode
  | .ok command =>
      let directory := (← configHome) ++ "/" ++ programName
      let location := directory ++ "/config.json"
      IO.FS.createDirAll directory
      let text ← readText? location
      let console := Console.open (Wire.Link.new .empty).close false
      let (outcome, console) := (perform location text command).run.run console
      console.lines.forM IO.println
      match console.saved with
      | some text => IO.FS.writeFile location text
      | none => pure ()
      match outcome with
      | .ok () => return 0
      | .error halt =>
          halt.report?.forM IO.eprint
          return UInt32.ofNat halt.exitCode

end GattPeripheral.Cli

def main (arguments : List String) : IO UInt32 := GattPeripheral.Cli.runProgram arguments
