import EventBus.Host
import EventBus.Host.Announce
import EventBus.Server.Deactivate
import EventBus.Trial.Loopback

/-!
# Scenes

A scene is a bus with its server and perhaps a host, all in one place and without a network. Raw clients
may connect to either side and send whatever they like; after something was sent, the next thing happens
when everything is done that this caused. The host may know another catalog than the bus.
-/

namespace EventBus.Trial

/-- Where a host listens. No text denotes the empty path, so that a host is reached only by those who were
given its address. -/
def hostAddress : Endpoint := .local ""

/-- A host, if there is one. -/
abbrev MaybeHost (d : Catalog) := Option (Loopback (Stage d))

/-- What stays fixed in a scene. -/
structure Setting (d : Catalog) where
  hostConfig : Config
  hostScript : List (Action d)
  serverAddress : Endpoint := .local "server"
  announceTo : Endpoint := .local "server"
  /-- How deep raises of handlers may nest. -/
  depth : Nat

namespace Setting

variable {c d : Catalog}

/-- The service of the host. Its handler has no bus, so that actions that need one are left out. -/
def hostService (setting : Setting d) : Service (Stage d) :=
  let place : Handler.Script.StageIn d (Stage d) := ⟨fun stage => stage, fun stage _ => stage⟩
  let script := setting.hostScript.filter fun action => !action.needsBus
  (Host.service setting.hostConfig (.script place "host" script)).toService

def host (setting : Setting d) : Loopback (Stage d) where
  reactor := .start setting.hostConfig {}

def environment (setting : Setting d) : Environment (World c (MaybeHost d)) :=
  hosted setting.hostService hostAddress

end Setting

/-- The two sides that a raw client may connect to. -/
inductive Side where
  | server
  | host
  deriving DecidableEq

/-- A bus with its server, a host within its surroundings, and raw clients. -/
structure Scene {c d : Catalog} (bus : Bus c (World c (MaybeHost d))) where
  server : Loopback (Server.State bus)
  clients : Array (Side × Handle) := #[]

namespace Scene

variable {c d : Catalog} {bus : Bus c (World c (MaybeHost d))}

def start (bus : Bus c (World c (MaybeHost d))) (host : MaybeHost d) : Scene bus where
  server := { reactor := .start bus.config { run := bus.start { net := host } } }

def run (scene : Scene bus) : Bus.Run bus :=
  scene.server.reactor.state.run

def withRun (run : Bus.Run bus) (scene : Scene bus) : Scene bus :=
  let reactor := scene.server.reactor
  { scene with server := { scene.server with reactor := { reactor with state := { reactor.state with run } } } }

def host (scene : Scene bus) : MaybeHost d :=
  scene.run.world.net

def withHost (host : Loopback (Stage d)) (scene : Scene bus) : Scene bus :=
  let run := scene.run
  scene.withRun { run with world := { run.world with net := some host } }

def service (setting : Setting d) : Service (Server.State bus) :=
  (Server.service bus.config (Bus.dispatch setting.environment setting.depth)).toService

def now (scene : Scene bus) : Duration :=
  scene.run.world.stage.clock

def withNow (now : Duration) (scene : Scene bus) : Scene bus :=
  scene.withRun { scene.run with world := scene.run.world.setClock now }

def clock : ClockIn (Server.State bus) where
  get state := state.run.world.stage.clock
  set now state := { state with run := { state.run with world := state.run.world.setClock now } }

/-! ## Raw clients -/

def hostNotices (setting : Setting d) (scene : Scene bus) : Scene bus :=
  match scene.host with
  | none => scene
  | some host =>
    scene.withHost
      ((host.passTo setting.hostService (stageClock d) scene.now).settle setting.hostService (stageClock d))

/-- Makes a move at one side, which is noticed there later. -/
def arrive (setting : Setting d) (side : Side) (m : Reactor.Move) (scene : Scene bus) : Scene bus :=
  match side with
  | .server => { scene with server := scene.server.arriveAt (service setting) clock scene.now m }
  | .host =>
    match scene.host with
    | none => scene
    | some host => scene.withHost (host.arriveAt setting.hostService (stageClock d) scene.now m)

/-- Waits until one side has noticed what arrived there and `enough` holds. What the server did meanwhile
may have been for the host, which notices it as well. -/
def wait (setting : Setting d) (side : Side) (enough : {τ : Type} → Loopback τ → Bool)
    (scene : Scene bus) : Scene bus :=
  match side with
  | .server =>
    let server := scene.server.settle (service setting) clock
    { scene with server := server.run (service setting) clock none enough }.hostNotices setting
  | .host =>
    match scene.host with
    | none => scene
    | some host =>
      let host := host.settle setting.hostService (stageClock d)
      let host := host.run setting.hostService (stageClock d) none enough
      (scene.withHost host).withNow host.now

def seen (side : Side) (scene : Scene bus) : Nat :=
  match side with
  | .server => scene.server.reactor.sockets.size
  | .host => (scene.host.map fun host => host.reactor.sockets.size).getD 0

def connect (setting : Setting d) (side : Side) (scene : Scene bus) : Scene bus :=
  let client := (side, scene.seen side)
  let scene := scene.arrive setting side .dial
  { scene with clients := scene.clients.push client }

/-- Whether one of the two ends of a raw client's connection is closed. -/
def isOver (client : Side × Handle) (scene : Scene bus) : Bool :=
  match client.1 with
  | .server => scene.server.isOver client.2
  | .host => scene.host.all (Loopback.isOver client.2)

/-- Sends bytes from a raw client; on a connection that is closed nothing is sent. -/
def send (setting : Setting d) (client : Side × Handle) (bytes : Bytes) (scene : Scene bus) : Scene bus :=
  if bytes.isEmpty || scene.isOver client then scene
  else (scene.arrive setting client.1 (.sends client.2 bytes)).wait setting client.1
    (Loopback.isAtRest client.2)

def hangUp (setting : Setting d) (client : Side × Handle) (scene : Scene bus) : Scene bus :=
  scene.arrive setting client.1 (.ends client.2)

/-- What was sent back to a raw client, and whether its connection is closed. -/
def fetch (client : Side × Handle) (scene : Scene bus) : Bytes × Bool × Scene bus :=
  match client.1, scene.host with
  | .server, _ =>
    let (bytes, isClosed, server) := scene.server.fetch client.2
    (bytes, isClosed, { scene with server })
  | .host, some host =>
    let (bytes, isClosed, host) := host.fetch client.2
    (bytes, isClosed, scene.withHost host)
  | .host, none => ([], true, scene)

/-! ## The server and the host -/

def deactivate (setting : Setting d) (name : String) (scene : Scene bus) : Bool × Scene bus :=
  match (Server.deactivate name).alone scene.server.reactor with
  | none => (false, scene)
  | some (known, reactor) =>
    (known, { scene with server := { scene.server with reactor }.settle (service setting) clock })

def announce (setting : Setting d) (name : String) (scene : Scene bus) :
    Except TransportError Unit × Scene bus :=
  let env := Loopback.environment (service setting) clock setting.serverAddress
  let (result, caller) := Host.announce env (.ofConfig setting.hostConfig setting.announceTo) name
    ⟨scene.now, scene.server⟩
  (result, { scene with server := caller.listener }.hostNotices setting)

/-- Waits until the host's handler was called `count` times since this was last asked, and gives what it
left behind. Nothing is waited for if it already was. -/
def await (setting : Setting d) (count : Nat) (scene : Scene bus) : List (TraceEntry d) × Scene bus :=
  match scene.host with
  | none => ([], scene)
  | some host =>
    let enough (host : Loopback (Stage d)) := count ≤ host.reactor.state.trace.length
    let host : Loopback (Stage d) := host.passTo setting.hostService (stageClock d) scene.now
    let host :=
      if enough host then host
      else (host.settle setting.hostService (stageClock d)).run setting.hostService (stageClock d) none
        fun host => enough host
    let (trace, state) := host.reactor.state.takeTrace
    let host := { host with reactor := { host.reactor with state } }
    (trace, (scene.withHost host).withNow host.now)

/-- Shuts the host down. Its workers are told to stop before anything is noticed that has just arrived. -/
def stopHost (setting : Setting d) (scene : Scene bus) : Scene bus :=
  ((scene.arrive setting .host .shutDown).arrive setting .host .pushStops).wait setting .host
    fun host => !host.isOpen

end Scene

end EventBus.Trial
