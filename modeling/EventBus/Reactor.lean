import EventBus.Config
import EventBus.Service

/-!
# Reactors

A reactor serves the connections of one listener with a poll thread and some workers.

```text
poll thread   waits for events; accepts connections; queues those that have something to read
worker        takes a connection out of the queue, reads it until nothing is left, arms it again;
              each chunk that it reads it serves, turn by turn
```

A connection is disarmed the moment its event is fetched, and armed again only when its worker has read
all there was, so that one worker at a time serves it. This module holds the state that the threads
share and what each of them is about to do; `EventBus.Reactor.Step` holds what they do.
-/

namespace EventBus

/-- An accepted connection. -/
structure Connection where
  socket : Nat
  inbox : Inbox := .empty
  closing : Bool := false
  /-- The poll thread is told when something can be read. -/
  armed : Bool := false

/-- What the poll thread is told. -/
inductive PollEvent where
  | knock
  /-- Something can be read from a connection. -/
  | ready (token : Token)
  deriving DecidableEq

/-- What the poll thread is about to do. -/
inductive PollThread where
  | looping
  | waiting
  | handling (events : List PollEvent)
  /-- To accept a connection, before the events that are left. -/
  | accepting (events : List PollEvent)
  /-- To arm a connection for the first time. -/
  | registering (token : Token) (events : List PollEvent)
  /-- To arm a connection again that found the queue full. -/
  | rejected (token : Token) (events : List PollEvent)
  | stopped
  deriving DecidableEq

/-- What a worker is about to do, for a service with states of type `τ`. -/
inductive Worker (τ : Type) where
  | idle
  /-- To see whether its connection is to be closed. -/
  | checking (token : Token)
  | reading (token : Token)
  /-- To go on serving a chunk of its connection. -/
  | serving (token : Token) (rest : Routine τ Reaction)
  | rearming (token : Token)
  | leaving (token : Token)
  | stopped

def Worker.hasStopped {τ : Type} : Worker τ → Bool
  | stopped => true
  | _ => false

/-- How far a reactor has come on its way to the end. -/
inductive Lifecycle where
  | running
  | cancelled
  | joining
  /-- All threads have stopped, and the connections that are left are torn down. -/
  | closing
  | finished
  deriving DecidableEq

/-- What a service was told about a connection. -/
inductive Callback where
  | opened (token : Token)
  | received (token : Token) (chunk : Bytes)
  | closed (token : Token)
  deriving DecidableEq

/-- The state of a reactor and of its service. -/
structure Reactor (τ : Type) where
  config : Config
  state : τ
  /-- The sockets of all peers that ever connected, in the order in which they did. -/
  sockets : Array Socket := #[]
  /-- The sockets that wait to be accepted. -/
  backlog : List Nat := []
  /-- The open connections, in the order of their tokens. -/
  connections : ByToken Connection := []
  queue : Queue
  nextToken : Token := 1
  poll : PollThread := .looping
  workers : Array (Worker τ)
  /-- How far it has come on its way to the end. -/
  lifecycle : Lifecycle := .running
  /-- What the service was told, newest first. -/
  callbacks : List Callback := []

namespace Reactor

variable {τ : Type}

def start (config : Config) (state : τ) : Reactor τ where
  config
  state
  queue := .ofCapacity config.queueCapacityClamped
  workers := Array.replicate config.workersClamped .idle

def connection? (r : Reactor τ) (token : Token) : Option Connection :=
  r.connections.get? token

def size (r : Reactor τ) : Nat :=
  r.connections.length

def modifySocket (i : Nat) (f : Socket → Socket) (r : Reactor τ) : Reactor τ :=
  { r with sockets := r.sockets.modify i f }

def closeSocket (r : Reactor τ) (i : Nat) : Reactor τ :=
  r.modifySocket i fun socket => { socket with closed := true }

def modifyConnection (token : Token) (f : Connection → Connection) (r : Reactor τ) : Reactor τ :=
  { r with connections := r.connections.modify token f }

def arm (token : Token) (r : Reactor τ) : Reactor τ :=
  r.modifyConnection token fun conn => { conn with armed := true }

def disarm (token : Token) (r : Reactor τ) : Reactor τ :=
  r.modifyConnection token fun conn => { conn with armed := false }

/-- Marks a connection to be closed and shuts its socket down. -/
def close (token : Token) (conn : Connection) (r : Reactor τ) : Reactor τ :=
  (r.modifyConnection token fun conn => { conn with closing := true }).closeSocket conn.socket

/-- Removes a connection and tells the service; only the first time has an effect. -/
def tearDown (service : Service τ) (token : Token) (r : Reactor τ) : Reactor τ :=
  -- of several that tear it down, only the one that finds it tells the service
  match r.connection? token with
  | none => r
  | some conn =>
    let r := r.closeSocket conn.socket
    { r with
      connections := r.connections.erase token
      state := service.closed token conn.inbox r.state
      callbacks := .closed token :: r.callbacks }

end Reactor

end EventBus
