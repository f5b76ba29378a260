import PeerMesh.Address
import PeerMesh.Address.Parser
import PeerMesh.Address.Printer
import PeerMesh.Blocklist
import PeerMesh.Catalog
import PeerMesh.Config
import PeerMesh.Context
import PeerMesh.Control
import PeerMesh.Distinct
import PeerMesh.Error
import PeerMesh.Files.Disk
import PeerMesh.Files.Local
import PeerMesh.Files.Message
import PeerMesh.Files.Path
import PeerMesh.Files.Systems
import PeerMesh.Group
import PeerMesh.Handle
import PeerMesh.Hello
import PeerMesh.Main
import PeerMesh.Mesh.Administration
import PeerMesh.Mesh.Basic
import PeerMesh.Mesh.Calls
import PeerMesh.Mesh.Event
import PeerMesh.Mesh.Run
import PeerMesh.Mesh.Start
import PeerMesh.NameMap
import PeerMesh.Network.OsError
import PeerMesh.Network.Stream
import PeerMesh.Node.Basic
import PeerMesh.Node.Connection
import PeerMesh.Node.Peering
import PeerMesh.Node.Teardown
import PeerMesh.PeerTable
import PeerMesh.Proofs.Catalog
import PeerMesh.Proofs.Crossing.Agreement
import PeerMesh.Proofs.Crossing.Bookkeeping
import PeerMesh.Proofs.Crossing.Course
import PeerMesh.Proofs.Crossing.Dialing
import PeerMesh.Proofs.Crossing.Ends
import PeerMesh.Proofs.Crossing.Hearing
import PeerMesh.Proofs.Crossing.Lifetimes
import PeerMesh.Proofs.Crossing.Mirror
import PeerMesh.Proofs.Crossing.Operations
import PeerMesh.Proofs.Crossing.Partner
import PeerMesh.Proofs.Crossing.Pumping
import PeerMesh.Proofs.Crossing.Reading
import PeerMesh.Proofs.Crossing.Reflection
import PeerMesh.Proofs.Crossing.Sanity
import PeerMesh.Proofs.Crossing.Scene
import PeerMesh.Proofs.Crossing.Sockets
import PeerMesh.Proofs.Distinct
import PeerMesh.Proofs.Files.Local
import PeerMesh.Proofs.Files.Paths
import PeerMesh.Proofs.Files.Sharing
import PeerMesh.Proofs.Handles
import PeerMesh.Proofs.Hello.Identifiers
import PeerMesh.Proofs.Hello.Line
import PeerMesh.Proofs.Hello.Progress
import PeerMesh.Proofs.Hello.Retention
import PeerMesh.Proofs.Hello.Segmentation
import PeerMesh.Proofs.InFlight
import PeerMesh.Proofs.NameMap
import PeerMesh.Proofs.Node.Accounts
import PeerMesh.Proofs.Node.Addresses
import PeerMesh.Proofs.Node.Admission
import PeerMesh.Proofs.Node.Anchors
import PeerMesh.Proofs.Node.Closing
import PeerMesh.Proofs.Node.Contest
import PeerMesh.Proofs.Node.Course
import PeerMesh.Proofs.Node.Decision
import PeerMesh.Proofs.Node.Effect
import PeerMesh.Proofs.Node.Emptied
import PeerMesh.Proofs.Node.Exclusion
import PeerMesh.Proofs.Node.Frame
import PeerMesh.Proofs.Node.Greetings
import PeerMesh.Proofs.Node.Identification
import PeerMesh.Proofs.Node.Initiative
import PeerMesh.Proofs.Node.Introductions
import PeerMesh.Proofs.Node.Ledger
import PeerMesh.Proofs.Node.Links
import PeerMesh.Proofs.Node.Mentions
import PeerMesh.Proofs.Node.Names
import PeerMesh.Proofs.Node.Opening
import PeerMesh.Proofs.Node.Outbound
import PeerMesh.Proofs.Node.OwnAddress
import PeerMesh.Proofs.Node.Pending
import PeerMesh.Proofs.Node.Pumps
import PeerMesh.Proofs.Node.Pursuit
import PeerMesh.Proofs.Node.Removal
import PeerMesh.Proofs.Node.Retention
import PeerMesh.Proofs.Node.Retraction
import PeerMesh.Proofs.Node.Settlement
import PeerMesh.Proofs.Node.Shunning
import PeerMesh.Proofs.Node.Slots
import PeerMesh.Proofs.Node.Speech
import PeerMesh.Proofs.Node.Standing
import PeerMesh.Proofs.Node.Strangers
import PeerMesh.Proofs.Node.Teardown
import PeerMesh.Proofs.Node.Traces
import PeerMesh.Proofs.Node.Turns
import PeerMesh.Proofs.Outcome
import PeerMesh.Proofs.Process.Banning
import PeerMesh.Proofs.Process.Blocking
import PeerMesh.Proofs.Process.Change
import PeerMesh.Proofs.Process.Course
import PeerMesh.Proofs.Process.Directory
import PeerMesh.Proofs.Process.Emptied
import PeerMesh.Proofs.Process.Events
import PeerMesh.Proofs.Process.Failing
import PeerMesh.Proofs.Process.Fate
import PeerMesh.Proofs.Process.Holding
import PeerMesh.Proofs.Process.Listening
import PeerMesh.Proofs.Process.Ongoing
import PeerMesh.Proofs.Process.Operations
import PeerMesh.Proofs.Process.Orphans
import PeerMesh.Proofs.Process.Preservation
import PeerMesh.Proofs.Process.Requests
import PeerMesh.Proofs.Process.Snapshot
import PeerMesh.Proofs.Process.Starting
import PeerMesh.Proofs.Process.StatsBody
import PeerMesh.Proofs.Process.StatsMap
import PeerMesh.Proofs.Process.StatsPath
import PeerMesh.Proofs.Process.Teardown
import PeerMesh.Proofs.Process.Totals
import PeerMesh.Proofs.Process.Visits
import PeerMesh.Proofs.Registry
import PeerMesh.Proofs.Resolution
import PeerMesh.Proofs.Settings.CommandLine
import PeerMesh.Proofs.Settings.Heeding
import PeerMesh.Proofs.Settings.Keys
import PeerMesh.Proofs.Settings.Layers
import PeerMesh.Proofs.Settings.Lists
import PeerMesh.Proofs.Settings.Places
import PeerMesh.Proofs.Settings.Spellings
import PeerMesh.Proofs.Shutdown
import PeerMesh.Proofs.Stats.Counters
import PeerMesh.Proofs.Stats.Delimitation
import PeerMesh.Proofs.Stats.RoundTrip
import PeerMesh.Proofs.Stats.WireForm
import PeerMesh.Proofs.Text.Blank
import PeerMesh.Proofs.Text.Numeral
import PeerMesh.Proofs.Text.Order
import PeerMesh.Proofs.Text.Parts
import PeerMesh.Proofs.Text.Strict
import PeerMesh.Proofs.Text.Utf8
import PeerMesh.Registry
import PeerMesh.Scenario.Closers
import PeerMesh.Scenario.Handles
import PeerMesh.Scenario.Script
import PeerMesh.Scenario.Table
import PeerMesh.Scenario.World
import PeerMesh.Settings.CommandLine
import PeerMesh.Settings.Document
import PeerMesh.Settings.Json
import PeerMesh.Settings.Key
import PeerMesh.Settings.Load
import PeerMesh.Settings.Toml
import PeerMesh.Settings.Value
import PeerMesh.Shutdown
import PeerMesh.Stats
import PeerMesh.Text.Blank
import PeerMesh.Text.Duration
import PeerMesh.Text.Numeral
import PeerMesh.Text.Parts
import PeerMesh.Text.Printable
import PeerMesh.Text.Quoted
import PeerMesh.Text.Shortest
import PeerMesh.Text.Utf8
import PeerMesh.Version
