import GattPeripheral.Cli.Command

/-!
What the program says about itself.
-/

namespace GattPeripheral.Cli

def programName : String := "gattkit"

def versionLine : String := programName ++ " 0.2.1"

structure Page where
  about : String
  usage : String
  /-- Tables under a heading, each row with a term and its meaning. -/
  tables : List (String × List (String × String))

namespace Page

/-- Rows with the meanings in one column. -/
def rows (entries : List (String × String)) : List String :=
  let width := entries.foldl (fun w e => max w e.1.length) 0
  entries.map fun e =>
    "  " ++ e.1 ++ String.ofList (List.replicate (width - e.1.length) ' ') ++ "  " ++ e.2

def lines (p : Page) : List String :=
  [p.about, "", "Usage: " ++ programName ++ p.usage] ++
    p.tables.flatMap fun t => ["", t.1 ++ ":"] ++ rows t.2

end Page

def helpRow : String × String := ("-h, --help", "Print help")

def commandHelpRow : String × String :=
  ("help", "Print this message or the help of the given subcommand(s)")

def topPage : Page where
  about := "GattKit — BLE GATT peripheral for BlueZ"
  usage := " <COMMAND>"
  tables :=
    [("Commands",
      [("run", "Publish the configured profile and serve it until Ctrl-C"),
       ("status", "Show adapter status"), ("config", "Configure settings"),
       ("uuid", "Show the canonical forms of an attribute identifier"), commandHelpRow]),
     ("Options", [helpRow, ("-V, --version", "Print version")])]

def page : List String → Page
  | ["run"] =>
      ⟨"Publish the configured profile and serve it until Ctrl-C", " run [OPTIONS]",
       [("Options",
         [("-a, --adapter <ADAPTER>", "Adapter name or object path (overrides config)"),
          ("-n, --name <NAME>", "Device name (overrides config)"),
          ("    --no-advertise", "Skip LE advertising"),
          ("    --simulate", "Cycle the battery level every 10 seconds"), helpRow])]⟩
  | ["status"] =>
      ⟨"Show adapter status", " status [OPTIONS]",
       [("Options", [("-a, --adapter <ADAPTER>", ""), helpRow])]⟩
  | ["config"] =>
      ⟨"Configure settings", " config <COMMAND>",
       [("Commands",
         [("set", ""), ("get", ""), ("list", ""), ("path", "Print the config file location"),
          commandHelpRow]),
        ("Options", [helpRow])]⟩
  | ["config", "set"] =>
      ⟨"Change a setting", " config set <KEY> <VALUE>",
       [("Arguments", [("<KEY>", ""), ("<VALUE>", "")]), ("Options", [helpRow])]⟩
  | ["config", "get"] =>
      ⟨"Show a setting", " config get <KEY>",
       [("Arguments", [("<KEY>", "")]), ("Options", [helpRow])]⟩
  | ["config", "list"] => ⟨"Show all settings", " config list", [("Options", [helpRow])]⟩
  | ["config", "path"] =>
      ⟨"Print the config file location", " config path", [("Options", [helpRow])]⟩
  | ["uuid"] =>
      ⟨"Show the canonical forms of an attribute identifier", " uuid <INPUT>",
       [("Arguments", [("<INPUT>", "")]), ("Options", [helpRow])]⟩
  | _ => topPage

/-- What is printed instead of running a command; a usage error has no place here. -/
def Stop.lines : Stop → List String
  | help command => (page command).lines
  | version => [versionLine]
  | usage _ => []

def Stop.exitCode : Stop → Nat
  | usage _ => 2
  | help _ | version => 0

end GattPeripheral.Cli
