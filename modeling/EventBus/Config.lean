import EventBus.Duration

/-!
# Configuration of a bus and its transport

One `Config` serves a bus, its server, the hosts of its subscribers and the clients it opens. Pool
and buffer sizes of zero count as one; a reply timeout of zero means to wait without end.
-/

namespace EventBus

/-- The settings of one bus and its transport. -/
structure Config where
  workers : Nat := 4
  /-- Entries that the queue of ready connections takes. -/
  queueCapacity : Nat := 1024
  /-- Events that one wait of the poll thread may fetch. -/
  maxEvents : Nat := 1024
  /-- Bytes that one read of a worker may fetch. -/
  readBuffer : Nat := 8192
  pollInterval : Duration := .ofMilliseconds 100
  /-- How long a client waits for a reply; zero for ever. -/
  replyTimeout : Duration := .ofSeconds 1
  maxFrame : Nat := 1 <<< 20
  deriving Repr

namespace Config

/-- Workers of a reactor, at least one. -/
def workersClamped (cfg : Config) : Nat :=
  max cfg.workers 1

/-- Capacity of the queue, at least one. -/
def queueCapacityClamped (cfg : Config) : Nat :=
  max cfg.queueCapacity 1

/-- Events of one wait, at least one. -/
def maxEventsClamped (cfg : Config) : Nat :=
  max cfg.maxEvents 1

/-- Bytes of one read, at least one. -/
def readBufferClamped (cfg : Config) : Nat :=
  max cfg.readBuffer 1

/-- The time to wait for a reply; `none` for ever. -/
def replyLimit? (cfg : Config) : Option Duration :=
  if cfg.replyTimeout = .zero then none else some cfg.replyTimeout

def writeLimit (cfg : Config) : Duration :=
  cfg.replyLimit?.getD cfg.pollInterval

/-- The wait of the poll thread in milliseconds, as far as sixteen bits reach. -/
def pollMilliseconds (cfg : Config) : Nat :=
  min cfg.pollInterval.milliseconds (UInt16.size - 1)

end Config

end EventBus
