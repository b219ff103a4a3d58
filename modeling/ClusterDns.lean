import ClusterDns.Cluster.Api
import ClusterDns.Cluster.Error
import ClusterDns.Cluster.Kind
import ClusterDns.Cluster.Object
import ClusterDns.Cluster.Schema
import ClusterDns.Cluster.Shape
import ClusterDns.Config.Basic
import ClusterDns.Config.CommandLine
import ClusterDns.Config.Explanation
import ClusterDns.Config.Setting
import ClusterDns.Config.Validation
import ClusterDns.Controller.Jitter
import ClusterDns.Controller.Policy
import ClusterDns.Controller.Queue
import ClusterDns.Health.Endpoint
import ClusterDns.Http.Agent
import ClusterDns.Http.Basic
import ClusterDns.Http.Header
import ClusterDns.Http.Status
import ClusterDns.Journal
import ClusterDns.Json.Basic
import ClusterDns.Json.Fields
import ClusterDns.Json.MergePatch
import ClusterDns.Json.Printer
import ClusterDns.Json.Reader
import ClusterDns.Main
import ClusterDns.Metrics.Exposition
import ClusterDns.Metrics.Registry
import ClusterDns.Net.Ipv4
import ClusterDns.Net.Ipv6
import ClusterDns.Net.SocketAddress
import ClusterDns.PiHole.Answer
import ClusterDns.PiHole.Client
import ClusterDns.PiHole.Error
import ClusterDns.PiHole.Record
import ClusterDns.PiHole.Session
import ClusterDns.PiHole.Settings
import ClusterDns.PiHole.Store
import ClusterDns.PiHole.Wire
import ClusterDns.Program
import ClusterDns.Proofs.Program.Contract
import ClusterDns.Reconcile.Desired
import ClusterDns.Reconcile.Engine
import ClusterDns.Reconcile.Error
import ClusterDns.Reconcile.Event
import ClusterDns.Reconcile.Metadata
import ClusterDns.Reconcile.Surroundings
import ClusterDns.Rehearsal.ApiServer
import ClusterDns.Rehearsal.Network
import ClusterDns.Rehearsal.PiHoleServer
import ClusterDns.Rehearsal.RecordStore
import ClusterDns.Rehearsal.Running
import ClusterDns.Rehearsal.Scene
import ClusterDns.Rehearsal.Schedule
import ClusterDns.Rehearsal.Stage
import ClusterDns.Rehearsal.World
import ClusterDns.Startup.LogFilter
import ClusterDns.Startup.LogLine
import ClusterDns.Startup.Run
import ClusterDns.Text.Base64
import ClusterDns.Text.Blank
import ClusterDns.Text.CommaList
import ClusterDns.Text.Numeral
import ClusterDns.Text.Quoted
import ClusterDns.Text.Shortest
import ClusterDns.Text.Similarity
import ClusterDns.Text.Split
import ClusterDns.Text.Timestamp
import ClusterDns.Text.Utf8
import ClusterDns.Time.Duration
import ClusterDns.Unicode.Composition
import ClusterDns.Unicode.Direction
import ClusterDns.Unicode.Joining
import ClusterDns.Unicode.Label
import ClusterDns.Unicode.Lowercase
import ClusterDns.Unicode.Printable
import ClusterDns.Unicode.Mapping
import ClusterDns.Unicode.Runs
import ClusterDns.Url.Basic
import ClusterDns.Url.DomainName
import ClusterDns.Url.Host
import ClusterDns.Url.Parser
import ClusterDns.Url.Percent
import ClusterDns.Url.Punycode
import ClusterDns.Url.Reference
import ClusterDns.Proofs.Rehearsal.Course
import ClusterDns.Proofs.Cluster.Manifest
import ClusterDns.Proofs.Rehearsal.Records
import ClusterDns.Proofs.Rehearsal.Versions
import ClusterDns.Proofs.Reconcile.Walk
import ClusterDns.Proofs.Reconcile.Confinement
import ClusterDns.Proofs.Reconcile.Custody
import ClusterDns.Proofs.Reconcile.Leftovers
import ClusterDns.Proofs.Reconcile.Upkeep
import ClusterDns.Proofs.Cluster.Reading
import ClusterDns.Proofs.Text.CommaList
import ClusterDns.Proofs.Text.Word
import ClusterDns.Proofs.Reconcile.Undisturbed
import ClusterDns.Proofs.Reconcile.Convergence
import ClusterDns.Proofs.Json.Leaves
import ClusterDns.Proofs.Cluster.Remainder
import ClusterDns.Proofs.Reconcile.Edits
import ClusterDns.Proofs.Reconcile.Untroubled
import ClusterDns.Proofs.Reconcile.Provenance
import ClusterDns.Proofs.Reconcile.Effect
import ClusterDns.Proofs.Rehearsal.Estate
import ClusterDns.Proofs.Reconcile.Handover
import ClusterDns.Proofs.PiHole.Entries
import ClusterDns.Proofs.PiHole.HostList
import ClusterDns.Proofs.Rehearsal.Site
import ClusterDns.Proofs.Reconcile.Concurrency
import ClusterDns.Proofs.Reconcile.Outcome
import ClusterDns.Proofs.Reconcile.Stillness
import ClusterDns.Proofs.Reconcile.Tally
import ClusterDns.Proofs.Reconcile.Lifecycle
import ClusterDns.Proofs.Reconcile.Withdrawal
import ClusterDns.Proofs.Json.RoundTrip
import ClusterDns.Proofs.Text.Utf8
import ClusterDns.Proofs.Http.Exchange
import ClusterDns.Proofs.PiHole.Answer
import ClusterDns.Proofs.Url.Segment
import ClusterDns.Proofs.PiHole.Service
import ClusterDns.Proofs.PiHole.Session
import ClusterDns.Proofs.PiHole.Conversation
import ClusterDns.Proofs.PiHole.Directory
import ClusterDns.Proofs.PiHole.Sharing
import ClusterDns.Proofs.PiHole.Removal
import ClusterDns.Proofs.PiHole.RoundTrip
import ClusterDns.Proofs.Time.Duration
import ClusterDns.Proofs.PiHole.Lifetime
import ClusterDns.Proofs.Url.Extension
import ClusterDns.Proofs.PiHole.EntryUrl
import ClusterDns.Proofs.Program.Dialogue
import ClusterDns.Proofs.PiHole.Race
import ClusterDns.Proofs.Reconcile.Agenda
import ClusterDns.Proofs.Net.Ipv4
import ClusterDns.Proofs.Reconcile.Address
import ClusterDns.Proofs.PiHole.Spelling
import ClusterDns.Proofs.Reconcile.Recording
import ClusterDns.Proofs.Url.Base
import ClusterDns.Proofs.Unicode.Lowercase
import ClusterDns.Proofs.Config.Validation
import ClusterDns.Proofs.Controller.Accounting
import ClusterDns.Proofs.Http.Redirect
import ClusterDns.Proofs.PiHole.Credentials
