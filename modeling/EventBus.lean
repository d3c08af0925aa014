import EventBus.Access
import EventBus.Address.Digits
import EventBus.Address.Ipv4
import EventBus.Address.Ipv6
import EventBus.Bus
import EventBus.Bus.Build
import EventBus.Bus.Dispatch
import EventBus.Bus.Report
import EventBus.Bus.Run
import EventBus.ByteStream
import EventBus.Bytes
import EventBus.Catalog
import EventBus.Catalog.Application
import EventBus.Catalog.Component
import EventBus.Client
import EventBus.Config
import EventBus.Counters
import EventBus.Decimal.Shortest
import EventBus.Duration
import EventBus.Endpoint
import EventBus.Environment
import EventBus.Error.Config
import EventBus.Error.Dispatch
import EventBus.Error.Io
import EventBus.Error.Transport
import EventBus.Event
import EventBus.Frame
import EventBus.Frame.Cursor
import EventBus.Frame.Decode
import EventBus.Frame.Reader
import EventBus.Handler
import EventBus.Handler.LogWriter
import EventBus.Handler.Script
import EventBus.Host
import EventBus.Host.Announce
import EventBus.Inbox
import EventBus.Json.Number
import EventBus.Json.Reader
import EventBus.Json.Token
import EventBus.Json.Writer
import EventBus.Log
import EventBus.Perm
import EventBus.Proofs.Wire.BigEndian
import EventBus.Queue
import EventBus.Queue.Shared
import EventBus.Reactor
import EventBus.Reactor.Echo
import EventBus.Reactor.Settle
import EventBus.Reactor.Step
import EventBus.Reactor.Timed
import EventBus.Record
import EventBus.Record.Entries
import EventBus.Record.Json
import EventBus.Routine
import EventBus.Server
import EventBus.Server.Deactivate
import EventBus.Service
import EventBus.Socket
import EventBus.Status
import EventBus.Subscriber
import EventBus.SubscriberId
import EventBus.Text.Blank
import EventBus.Text.Cut
import EventBus.Text.Printable
import EventBus.Text.Quoted
import EventBus.Text.Utf8
import EventBus.Token
import EventBus.Trial.FileTree
import EventBus.Trial.FileTree.Standard
import EventBus.Trial.Loopback
import EventBus.Trial.Peer
import EventBus.Trial.Scene
import EventBus.Trial.Unreachable
import EventBus.Trial.World
import EventBus.Proofs.Wire.Codec
import EventBus.Proofs.Wire.RoundTrip
import EventBus.Proofs.Service.Chunks
import EventBus.Proofs.Bus.Chain
import EventBus.Proofs.Bus.Walk
import EventBus.Proofs.Bus.Dispatch
import EventBus.Proofs.Reactor.Custody
import EventBus.Proofs.Routine.Guarantee
import EventBus.Proofs.Reactor.Telling
import EventBus.Proofs.Reactor.Reachable
import EventBus.Proofs.Server.Authority
import EventBus.Proofs.Reactor.Places
import EventBus.Proofs.Bus.Loading
import EventBus.Proofs.Access.Control
import EventBus.Proofs.Bus.Delivery
import EventBus.Proofs.Bus.Placement
import EventBus.Proofs.Reactor.Exclusive
import EventBus.Proofs.Bus.Isolation
import EventBus.Proofs.Routine.Account
import EventBus.Proofs.Bus.Counted
import EventBus.Proofs.Client.Pairing
import EventBus.Proofs.Bus.Activations
import EventBus.Proofs.Server.Answers
import EventBus.Proofs.Server.Replies
import EventBus.Proofs.Client.Requests
import EventBus.Proofs.Reactor.Lifetimes
import EventBus.Proofs.Wire.Canonical
import EventBus.Proofs.Wire.Incremental
import EventBus.Proofs.Server.Deactivation
import EventBus.Proofs.Wire.Accesses
import EventBus.Proofs.Wire.Agreement
import EventBus.Proofs.Wire.Limits
import EventBus.Proofs.Record.Inbounds
import EventBus.Proofs.Bus.Acceptance
import EventBus.Proofs.Access.Consistency
import EventBus.Proofs.Client.Announcements
import EventBus.Proofs.Queue.Stops
import EventBus.Proofs.Catalog.Names
import EventBus.Proofs.Address.Ipv6
import EventBus.Proofs.Endpoint.NormalForm
import EventBus.Proofs.Record.RoundTrip
import EventBus.Proofs.Service.Outgoing
