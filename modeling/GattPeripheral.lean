import GattPeripheral.Battery
import GattPeripheral.Bus.Memory
import GattPeripheral.Cli.Help
import GattPeripheral.Cli.LogDirectory
import GattPeripheral.Cli.Program
import GattPeripheral.Config.Document
import GattPeripheral.Config.Settings
import GattPeripheral.Form.Advertising
import GattPeripheral.Form.Bus
import GattPeripheral.Form.Event
import GattPeripheral.Form.Tree
import GattPeripheral.Host.Lifecycle
import GattPeripheral.Main
import GattPeripheral.Profile
import GattPeripheral.Proofs.Advertising.Payload
import GattPeripheral.Proofs.Attribute.Flags
import GattPeripheral.Proofs.Config.Editing
import GattPeripheral.Proofs.Config.Saving
import GattPeripheral.Proofs.Config.Settings
import GattPeripheral.Proofs.Connection.Announcements
import GattPeripheral.Proofs.Connection.Callbacks
import GattPeripheral.Proofs.Connection.Devices
import GattPeripheral.Proofs.Connection.Following
import GattPeripheral.Proofs.Connection.Subscriptions
import GattPeripheral.Proofs.Except
import GattPeripheral.Proofs.Host.Actions
import GattPeripheral.Proofs.Host.Advertising
import GattPeripheral.Proofs.Host.Agreement
import GattPeripheral.Proofs.Host.Airing
import GattPeripheral.Proofs.Host.Dealings
import GattPeripheral.Proofs.Host.Fallbacks
import GattPeripheral.Proofs.Host.Farewells
import GattPeripheral.Proofs.Host.Freezing
import GattPeripheral.Proofs.Host.Leftovers
import GattPeripheral.Proofs.Host.Lifecycle
import GattPeripheral.Proofs.Host.LongAccesses
import GattPeripheral.Proofs.Host.Manager
import GattPeripheral.Proofs.Host.Neighbours
import GattPeripheral.Proofs.Host.Operation
import GattPeripheral.Proofs.Host.Ordering
import GattPeripheral.Proofs.Host.Protocol
import GattPeripheral.Proofs.Host.Rebuilding
import GattPeripheral.Proofs.Host.Registration
import GattPeripheral.Proofs.Host.Releases
import GattPeripheral.Proofs.Host.Requests
import GattPeripheral.Proofs.Host.Shutdown
import GattPeripheral.Proofs.Host.Signals
import GattPeripheral.Proofs.Host.Starting
import GattPeripheral.Proofs.Host.Stopping
import GattPeripheral.Proofs.Host.Subscribing
import GattPeripheral.Proofs.Host.Values
import GattPeripheral.Proofs.Host.Watching
import GattPeripheral.Proofs.Identifier
import GattPeripheral.Proofs.Json.Containers
import GattPeripheral.Proofs.Json.Editing
import GattPeripheral.Proofs.Json.Reading
import GattPeripheral.Proofs.Json.Scalars
import GattPeripheral.Proofs.Json.Skipping
import GattPeripheral.Proofs.Json.Spelling
import GattPeripheral.Proofs.Naming
import GattPeripheral.Proofs.Offsets
import GattPeripheral.Proofs.Path.Ancestry
import GattPeripheral.Proofs.Path.Children
import GattPeripheral.Proofs.Path.Reading
import GattPeripheral.Proofs.Profile.Advertising
import GattPeripheral.Proofs.Profile.Building
import GattPeripheral.Proofs.Profile.Described
import GattPeripheral.Proofs.Profile.Entries
import GattPeripheral.Proofs.Profile.Merging
import GattPeripheral.Proofs.Text.Blank
import GattPeripheral.Proofs.Text.Hex
import GattPeripheral.Proofs.Text.Numeral
import GattPeripheral.Proofs.Tree.Descent
import GattPeripheral.Proofs.Tree.Editing
import GattPeripheral.Proofs.Tree.Exports
import GattPeripheral.Proofs.Tree.Frozen
import GattPeripheral.Proofs.Tree.Observing
import GattPeripheral.Proofs.Tree.Order
import GattPeripheral.Proofs.Tree.Placement
import GattPeripheral.Proofs.Tree.Publishing
import GattPeripheral.Proofs.Tree.Rebuilding
import GattPeripheral.Proofs.Tree.Served
import GattPeripheral.Proofs.Tree.Signals
import GattPeripheral.Proofs.Tree.Sites
import GattPeripheral.Proofs.Tree.Snapshot
import GattPeripheral.Proofs.Tree.Unseen
import GattPeripheral.Proofs.Tree.Values
import GattPeripheral.Proofs.Tree.Walks
import GattPeripheral.Proofs.Wire.Options
import GattPeripheral.Proofs.Wire.Values
import GattPeripheral.Routine.Join
import GattPeripheral.Session
import GattPeripheral.Tree.Snapshot
import GattPeripheral.Wire.Arranged
import GattPeripheral.Wire.Remote
