import EventBus.Config
import EventBus.Environment

/-!
# Clients

A `Client` delivers events to one endpoint. It opens its connection at the first call and keeps it for
the next one, together with what arrived on it and was not read yet. Any failure of a call closes the
connection, and so does an answer of the wrong kind. A frame that is too large is refused before the
connection is touched.
-/

namespace EventBus

/-- The client of one endpoint. -/
structure Client where
  endpoint : Endpoint
  /-- How long it waits for an answer; `none` for ever. -/
  limit : Option Duration
  maxFrame : Nat

/-- An open connection of a client. -/
structure Link where
  handle : Handle
  /-- What arrived on it and was not read yet. -/
  unread : List Frame.Arrival
  deriving DecidableEq

/-- A client's connection, if one is open, within its surroundings. -/
structure Session (σ : Type) where
  link : Option Link
  world : σ

namespace Client

variable {σ : Type}

/-- The client of an endpoint under a configuration. -/
def ofConfig (cfg : Config) (endpoint : Endpoint) : Client :=
  ⟨endpoint, cfg.replyLimit?, cfg.maxFrame⟩

def reportedLimit (client : Client) : Duration :=
  client.limit.getD .longest

/-! ## The connection -/

/-- The connection that is kept, or a new one. -/
def acquire (env : Environment σ) (client : Client) (session : Session σ) :
    Except TransportError Link × Session σ :=
  match session.link with
  | some link => (.ok link, session)
  | none =>
    match env.connect client.endpoint session.world with
    | (.ok handle, world) => (.ok ⟨handle, []⟩, ⟨some ⟨handle, []⟩, world⟩)
    | (.error e, world) => (.error (.io e), ⟨none, world⟩)

/-- Closes the connection that is kept, if there is one. -/
def reset (env : Environment σ) (session : Session σ) : Session σ :=
  match session.link with
  | some link => ⟨none, env.close link.handle session.world⟩
  | none => session

def isConnected (session : Session σ) : Bool :=
  session.link.isSome

def send (env : Environment σ) (client : Client) (bytes : Bytes) (link : Link) (world : σ) :
    Except TransportError Unit × σ :=
  let (result, world) := env.write link.handle bytes world
  (result.mapError fun e => .ofIo e client.reportedLimit, world)

def receive (env : Environment σ) (client : Client) (link : Link) (world : σ) :
    Except TransportError Frame × Link × σ :=
  let (arrived, world) := env.receive link.handle client.limit world
  let (result, reader) :=
    Frame.Reader.frame client.maxFrame client.reportedLimit ⟨link.unread ++ arrived.arrivals, arrived.ending⟩
  (result, { link with unread := reader.arrivals }, world)

/-! ## Calls -/

/-- Writes bytes to the connection, opened if need be, and takes from it what `answer` asks for. Any
failure closes it. -/
def exchange {α : Type} (env : Environment σ) (client : Client) (bytes : Bytes)
    (answer : Link → σ → Except TransportError α × Link × σ) (session : Session σ) :
    Except TransportError α × Session σ :=
  -- whatever was left unread on a kept connection is the beginning of the next answer
  match client.acquire env session with
  | (.error e, session) => (.error e, session)
  | (.ok link, session) =>
    match client.send env bytes link session.world with
    | (.error e, world) => (.error e, reset env ⟨some link, world⟩)
    | (.ok (), world) =>
      match answer link world with
      | (.error e, link, world) => (.error e, reset env ⟨some link, world⟩)
      | (.ok value, link, world) => (.ok value, ⟨some link, world⟩)

/-- Sends one frame and waits for the next one in return. -/
def call (env : Environment σ) (client : Client) (frame : Frame) (session : Session σ) :
    Except TransportError Frame × Session σ :=
  match frame.encodeWithin client.maxFrame with
  | .error e => (.error e, session) -- the connection stays as it is
  | .ok bytes => client.exchange env bytes (client.receive env) session

/-- Delivers an event without waiting for an answer. -/
def push (env : Environment σ) (client : Client) (envelope : Envelope) (session : Session σ) :
    Except TransportError Unit × Session σ :=
  match (Frame.push envelope).encodeWithin client.maxFrame with
  | .error e => (.error e, session)
  | .ok bytes => client.exchange env bytes (fun link world => (.ok (), link, world)) session

/-- The out-structure after an answer: the one that the answer carries, if there is one to write to. -/
def writtenBack (out returned : Option EventOut) : Option EventOut :=
  match out, returned with
  | some _, some returned => some returned
  | out, _ => out

/-- Without somewhere to write to, or something to write, nothing is written. -/
theorem writtenBack_of_none {out returned : Option EventOut} (h : out = none ∨ returned = none) :
    writtenBack out returned = out := by
  rcases h with rfl | rfl
  · rfl
  · cases out <;> rfl

/-- Delivers an event and waits for its reply: its status, and the out-structure as the receiver left
it. The out-structure is sent along only when the receiver may write it. -/
def request (env : Environment σ) (client : Client) (envelope : Envelope) (out : Option EventOut)
    (session : Session σ) : Except TransportError Status × Option EventOut × Session σ :=
  match client.call env (.request envelope out) session with
  | (.error e, session) => (.error e, out, session)
  | (.ok (.reply status returned), session) => (.ok status, writtenBack out returned, session)
  | (.ok other, session) => (.error (.unexpectedFrame "reply" other.label), out, reset env session)

/-- Announces a name; the answer is the verdict of the server. -/
def hello (env : Environment σ) (client : Client) (name : String) (session : Session σ) :
    Except TransportError Status × Session σ :=
  match client.call env (.hello (.ofName name) name) session with
  | (.error e, session) => (.error e, session)
  | (.ok (.helloAck status), session) => (.ok status, session)
  | (.ok other, session) => (.error (.unexpectedFrame "hello_ack" other.label), reset env session)

end Client

end EventBus
