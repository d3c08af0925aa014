import EventBus.Environment
import EventBus.Reactor.Timed
import EventBus.Trial.World

/-!
# Loopback

A listener that clients reach without a network: a reactor that settles when a client waits for it, or
time passes. What its handlers spend in time occupies the workers, so that a client whose limit is
shorter gives up waiting.
-/

namespace EventBus.Trial

/-- A listener that clients reach without a network. -/
abbrev Loopback (τ : Type) := Reactor.Timed τ

namespace Loopback

variable {τ : Type}

def isOpen (listener : Loopback τ) : Bool :=
  listener.reactor.lifecycle ≠ .finished

/-- The socket of a connection, if there is one. -/
def socket? (handle : Handle) (listener : Loopback τ) : Option Socket :=
  listener.reactor.sockets[handle]?

/-- Makes a move at some time, which is noticed later. -/
def arriveAt (service : Service τ) (clock : ClockIn τ) (now : Duration) (move : Reactor.Move)
    (listener : Loopback τ) : Loopback τ :=
  (listener.passTo service clock now).arrive service move

def dial (service : Service τ) (clock : ClockIn τ) (now : Duration) (listener : Loopback τ) :
    Handle × Loopback τ :=
  (listener.reactor.sockets.size, listener.arriveAt service clock now .dial)

def send (service : Service τ) (clock : ClockIn τ) (now : Duration) (handle : Handle) (bytes : Bytes)
    (listener : Loopback τ) : Except IoError Unit × Loopback τ :=
  let listener : Loopback τ := listener.passTo service clock now
  match listener.socket? handle with
  | some socket =>
    if socket.closed then (.error .brokenPipe, listener)
    else (.ok (), listener.arrive service (.sends handle bytes))
  | none => (.error .brokenPipe, listener)

/-- Whether something was sent back on a connection, or it is closed. -/
def hasAnswer (handle : Handle) (listener : Loopback τ) : Bool :=
  (listener.socket? handle).all fun socket => socket.closed || !socket.outgoing.isEmpty

/-- Whether everything that was sent on a connection has been served. A connection that found the queue
full is armed while it still waits, so it must also have nothing to read. -/
def isAtRest (handle : Handle) (listener : Loopback τ) : Bool :=
  let r := listener.reactor
  !r.backlog.contains handle
    && r.connections.all fun (_, conn) => conn.socket != handle || conn.armed && !r.isReady conn

/-- Whether one of the two ends of a connection is closed. -/
def isOver (handle : Handle) (listener : Loopback τ) : Bool :=
  (listener.socket? handle).all fun socket => socket.closed || socket.ended

/-- Fetches all that was sent back on a connection, and whether the connection is closed. -/
def fetch (handle : Handle) (listener : Loopback τ) : Bytes × Bool × Loopback τ :=
  match listener.socket? handle with
  | none => ([], true, listener)
  | some socket =>
    (socket.fetch.1, listener.isOver handle,
      { listener with reactor := listener.reactor.modifySocket handle fun socket => socket.fetch.2 })

/-- Waits for what is sent back on a connection, from some time on and up to a limit. Gives what a
client finds and the time when it does. -/
def wait (service : Service τ) (clock : ClockIn τ) (now : Duration) (handle : Handle)
    (limit : Option Duration) (listener : Loopback τ) : Frame.Reader × Duration × Loopback τ :=
  let expiry : Option Duration := limit.map fun limit => ⟨now.nanoseconds + limit.nanoseconds⟩
  let listener : Loopback τ :=
    ((listener.passTo service clock now).settle service clock).run service clock expiry (hasAnswer handle)
  if listener.hasAnswer handle then
    let (bytes, isClosed, listener) := listener.fetch handle
    (⟨if bytes.isEmpty then [] else [.piece bytes], if isClosed then .closed else .fails .wouldBlock⟩,
      listener.now, listener)
  else (⟨[], .fails .wouldBlock⟩, expiry.getD listener.now, listener)

def hangUp (service : Service τ) (clock : ClockIn τ) (now : Duration) (handle : Handle)
    (listener : Loopback τ) : Loopback τ :=
  listener.arriveAt service clock now (.ends handle)

/-- A client of a listener, at some time. -/
structure Caller (τ : Type) where
  now : Duration
  listener : Loopback τ

/-- Surroundings in which one listener is all there is. -/
def environment (service : Service τ) (clock : ClockIn τ) (address : Endpoint) : Environment (Caller τ) where
  connect endpoint caller :=
    if endpoint = address && caller.listener.isOpen then
      let (handle, listener) := caller.listener.dial service clock caller.now
      (.ok handle, { caller with listener })
    else (.error (unreachable endpoint), caller)
  write handle bytes caller :=
    let (result, listener) := caller.listener.send service clock caller.now handle bytes
    (result, { caller with listener })
  receive handle limit caller :=
    let (reader, now, listener) := caller.listener.wait service clock caller.now handle limit
    (reader, ⟨now, listener⟩)
  close handle caller :=
    { caller with listener := caller.listener.hangUp service clock caller.now handle }
  now := Caller.now

end Loopback

def stageClock (c : Catalog) : ClockIn (Stage c) where
  get := Stage.clock
  set now stage := { stage with clock := now }

/-- Surroundings of a bus in which a host listens, if there is one, and nobody else. -/
def hosted {c d : Catalog} (service : Service (Stage d)) (address : Endpoint) :
    Environment (World c (Option (Loopback (Stage d)))) :=
  let env := Loopback.environment service (stageClock d) address
  { connect := fun endpoint world =>
      match world.net with
      | none => (.error (unreachable endpoint), world)
      | some listener =>
        let (result, caller) := env.connect endpoint ⟨world.stage.clock, listener⟩
        (result, { world with net := some caller.listener })
    write := fun handle bytes world =>
      match world.net with
      | none => (.error .brokenPipe, world)
      | some listener =>
        let (result, caller) := env.write handle bytes ⟨world.stage.clock, listener⟩
        (result, { world with net := some caller.listener })
    receive := fun handle limit world =>
      match world.net with
      | none => (⟨[], .closed⟩, world)
      | some listener =>
        let (reader, caller) := env.receive handle limit ⟨world.stage.clock, listener⟩
        (reader, { world with net := some caller.listener }.setClock caller.now)
    close := fun handle world =>
      { world with
        net := world.net.map fun listener => (env.close handle ⟨world.stage.clock, listener⟩).listener }
    now := fun world => world.stage.clock }

end EventBus.Trial
