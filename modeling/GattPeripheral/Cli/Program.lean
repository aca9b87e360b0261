import GattPeripheral.Battery
import GattPeripheral.Cli.Command
import GattPeripheral.Cli.Console

/-!
What each command does.

Every command reads the configuration first and writes the standard one where there is none. Serving
comes in two parts: bringing the peripheral up, and taking it down again when the user asks for it.
-/

namespace GattPeripheral.Cli

open Act

variable {β : Type}

/-- Sends the log to a directory. The configuration file is one of the files in the way. -/
def openLog (location directory : String) : Act β Unit := do
  let known := (← get).layout
  let layout := { known with files := .ofPath location :: known.files }
  match layout.logPlace? directory with
  | some place => modify fun c => { c with logPlace := some place }
  | none => throw .broken

def loadConfig (location : String) (text : Option String) : Act β Config := do
  let config ←
    match text with
    | some text => require Config.loadFailure (Config.load text)
    | none => do
        save Config.standard.save
        pure Config.standard
  config.logDir.forM (openLog location)
  return config

/-! Without the bus -/

def shownText (value : String) : String := if value.isEmpty then "(empty)" else value

def serviceLines (s : ServiceConfig) : List String :=
  ("  " ++ s.uuid) :: s.characteristics.map fun c =>
    "    " ++ c.uuid ++ " " ++ Text.shownList c.flags ++ " = " ++ shownText c.value

def configLines (c : Config) : List String :=
  ["Configuration", ""] ++ c.list.map (fun e => column 32 e.1 e.2) ++ ["", "Services:"] ++
    if c.services.isEmpty then ["  (none configured)"] else c.services.flatMap serviceLines

def configure (location : String) (c : Config) : ConfigAction → Act β Unit
  | .set key value => do
      let changed ← require SettingError.chain (c.apply key value)
      save changed.save
      print ("✓ Set " ++ key ++ " = " ++ value)
  | .get key =>
      match c.get? key with
      | some value => print (key ++ " = " ++ value)
      | none => require SettingError.chain (.error (.unknownKey key))
  | .list => printAll (configLines c)
  | .path => print location

/-- The short form of an identifier in hexadecimal digits, if it has one. -/
def shortText (u : Identifier) : String :=
  match u.short?, u.medium? with
  | some n, _ => "0x" ++ String.ofList (Text.fixedHex 4 n)
  | none, some n => "0x" ++ String.ofList (Text.fixedHex 8 n)
  | none, none => "(not base-derived)"

def describe (input : String) : Act β Unit := do
  let u ← within ("Not an identifier: " ++ input)
    (require GattError.chain (Identifier.parse input))
  printAll
    [column 10 "Display:" u.dashed, column 10 "Wire:" u.wire, column 10 "Short:" (shortText u)]

/-! On the bus -/

variable [Transport β]

def connect : Act β Unit := do
  if !(← get).connected then
    fail ⟨"Failed to connect to the system bus", [BusError.notConnected.message]⟩

/-- The adapter at a path, or the one with a name. -/
def openAdapter (name : String) : Act β ObjectPath := do
  let path ←
    if name.toList.head? = some '/' then
      within "Invalid adapter path"
        (require (fun e : BusError => [e.message]) (ObjectPath.parse name))
    else
      within ("No Bluetooth adapter available (wanted " ++ name ++ ")") (do
        require GattError.chain (← onHost (Adapter.locate name).run))
  onHost fun h => ((), { h with adapter := path })
  return path

def yesNo (b : Bool) : String := if b then "yes" else "no"

def showStatus (name : String) : Act β Unit := do
  connect
  let path ← openAdapter name
  let ask {α : Type} (request : Routine (Host β) (Except GattError α)) : Act β α := do
    require GattError.chain (← onHost request.run)
  printAll ["Adapter Status", "", column 14 "Path:" path.text]
  print (column 14 "Address:" (← ask (Adapter.address path)))
  print (column 14 "Alias:" (← ask (Adapter.friendlyName path)))
  print (column 14 "Powered:" (yesNo (← ask (Adapter.isPowered path))))
  print (column 14 "Discoverable:" (yesNo (← ask (Adapter.isDiscoverable path))))

def install (c : Config) (a : Application) (advertisement : Option Advertisement) (h : Host β) :
    Host β :=
  { h with
    options := c.registrationOptions
    application := a
    advertisements := advertisement.toList
    tracker := { h.tracker with delegate := some .recording }
    peripheral := some (.new (advertisement.map fun _ => 0) (some c.deviceName)) }

def serviceLine (s : Service) : String :=
  "  Service:     " ++ s.identifier.dashed ++ " (" ++ toString s.characteristics.length ++
    " characteristic(s))"

def simulationLine (a : Application) : String :=
  match Profile.batteryLevel? a with
  | some _ =>
      "  Simulating battery level every " ++ toString BatteryCycle.periodSeconds ++ "s"
  | none => "  No battery level characteristic to simulate"

def bannerLines (c : Config) (options : RunOptions) (h : Host β) : List String :=
  ["✓ Peripheral running", "  Adapter:     " ++ h.adapter.text,
   "  Name:        " ++ c.deviceName, "  Application: " ++ h.application.path.text] ++
    h.application.services.map serviceLine ++
    ["  Advertising: " ++ ((h.peripheral.bind (·.mode)).map AdvertisingMode.text).getD "off"] ++
    (if options.simulate then [simulationLine h.application] else []) ++
    ["", "Press Ctrl-C to stop"]

def bringUp (config : Config) (options : RunOptions) : Act β Unit := do
  let c := { config with deviceName := options.name.getD config.deviceName }
  print "Starting GattKit peripheral..."
  connect
  let _ ← openAdapter (options.adapter.getD c.adapter)
  let application ← require ProfileError.chain (Profile.application c)
  let advertisement ←
    if c.advertise && options.advertise then
      some <$> require ProfileError.chain (Profile.advertisement c application)
    else pure none
  onHost fun h => ((), install c application advertisement h)
  within "Failed to start the peripheral" (do
    require GattError.chain (← onHost Host.startPeripheral.run))
  printNotices
  printAll (bannerLines c options (← get).host)

/-- Ends what `bringUp` began. -/
def takeDown : Act β Unit := do
  printNotices
  printAll ["", "Stopping..."]
  onHost fun h => ((), { h with tracker := { h.tracker with delegate := none } })
  within "Shutdown incomplete" (do require GattError.chain (← onHost Host.stopPeripheral.run))
  print "✓ Stopped"

def Command.isServing : Command → Bool
  | run _ => true
  | _ => false

/-- Carries out a command, up to where it serves. -/
def perform (location : String) (text : Option String) (command : Command) : Act β Unit := do
  let c ← loadConfig location text
  match command with
  | .run options => bringUp c options
  | .status adapter => showStatus (adapter.getD c.adapter)
  | .config action => configure location c action
  | .uuid input => describe input

end GattPeripheral.Cli
