import EventBus.Bus.Dispatch
import EventBus.Service

/-!
# The bus server

The end of a bus that external subscribers connect to. A connection is bound to a subscriber by an
accepted handshake, and only then may it raise events, and only in the name of that subscriber.

* `hello` is answered with the verdict of the bus; an accepted one binds the connection.
* `push` raises an event; nothing is sent back.
* `request` carries an event through its chain with the out-structure that came along, and replies with
  the status and the out-structure.
* An event in another's name is refused as unauthorized, one with an unknown code as a failure; neither
  touches the bus, and the connection stays open.
* Any other frame ends the connection.

The bus and the bindings are two things that threads share: what is done to the one and what is done to the
other are never the same turn. Announcements that were answered are kept beside the bindings; nothing that the
server does depends on them.
-/

namespace EventBus.Server

variable {c : Catalog} {σ : Type}

/-- An announcement that was answered. -/
structure Greeting where
  token : Token
  id : SubscriberId
  name : String
  status : Status

/-- The state of a server. -/
structure State (bus : Bus c σ) where
  run : Bus.Run bus
  /-- The subscribers that connections are bound to. -/
  bindings : ByToken SubscriberId := []
  /-- The announcements that were answered, newest first. -/
  greetings : List Greeting := []

namespace State

variable {bus : Bus c σ}

/-- The subscriber that a connection is bound to. -/
def binding? (state : State bus) (token : Token) : Option SubscriberId :=
  state.bindings.get? token

/-- Binds a connection, in place of an earlier binding. -/
def bind (token : Token) (id : SubscriberId) (state : State bus) : State bus :=
  { state with bindings := (token, id) :: state.bindings.erase token }

/-- Notes the verdict on an announcement. An accepted one binds the connection, a refused one leaves an
earlier binding as it is. -/
def greet (token : Token) (id : SubscriberId) (name : String) (status : Status) (state : State bus) : State bus :=
  let state := { state with greetings := ⟨token, id, name, status⟩ :: state.greetings }
  if status.isOk then state.bind token id else state

def release (token : Token) (state : State bus) : State bus :=
  { state with bindings := state.bindings.erase token }

/-- The connections that are bound to a subscriber. -/
def boundTo (state : State bus) (id : SubscriberId) : List Token :=
  (state.bindings.filter fun (_, bound) => bound = id).map (·.1)

/-- Whether a connection may raise in the name of a subscriber. -/
def mayRaise (token : Token) (origin : SubscriberId) (state : State bus) : Bool :=
  state.binding? token = some origin

@[simp]
theorem binding?_bind_self (token : Token) (id : SubscriberId) (state : State bus) :
    (state.bind token id).binding? token = some id := by
  simp [bind, binding?, ByToken.get?_cons]

theorem binding?_bind_of_ne {token other : Token} (h : other ≠ token) (id : SubscriberId)
    (state : State bus) : (state.bind token id).binding? other = state.binding? other := by
  simp [bind, binding?, ByToken.get?_cons, Ne.symm h, ByToken.get?_erase_of_ne h]

@[simp]
theorem binding?_release_self (token : Token) (state : State bus) :
    (state.release token).binding? token = none := by
  simp [release, binding?]

theorem binding?_release_of_ne {token other : Token} (h : other ≠ token) (state : State bus) :
    (state.release token).binding? other = state.binding? other := by
  simp [release, binding?, ByToken.get?_erase_of_ne h]

end State

variable {bus : Bus c σ}

def onBus {α : Type} (routine : Routine (Bus.Run bus) α) : Routine (State bus) α :=
  routine.within State.run fun run state => { state with run }

def answerHello (token : Token) (id : SubscriberId) (name : String) : Routine (State bus) Status := do
  -- between the two turns the subscriber is activated and the connection not yet bound to it
  let status ← onBus (.atomic (Bus.Run.handshake id name))
  .change (State.greet token id name status)
  return status

/-- Raises the event of an envelope. The answer is `none` for a code outside the catalog. -/
def raiseEnvelope (raise : Bus.Raise bus) (envelope : Envelope) (out : Option EventOut) :
    Routine (State bus) (Option (Status × EventOut)) := do
  match envelope.toEvent c with
  | .error _ => return none
  | .ok event =>
    let answer ← onBus (raise event (out.getD event.freshOut))
    return some answer

def answer (raise : Bus.Raise bus) (token : Token) (frame : Frame) : Routine (State bus) Answer := do
  match frame with
  | .hello id name =>
    let status ← answerHello token id name
    return .reply (.helloAck status)
  | .push envelope =>
    -- a push that is refused leaves no trace: the sender does not wait for an answer
    if ← .ask (State.mayRaise token envelope.origin) then
      let _ ← raiseEnvelope raise envelope none
    return .silent
  | .request envelope out =>
    if ← .ask (State.mayRaise token envelope.origin) then
      match ← raiseEnvelope raise envelope out with
      | some (status, out) => return .reply (.reply status (some out))
      | none => return .reply (.reply .failure none)
    else return .reply (.reply .unauthorized none)
  | other => return .refuse (.unexpectedFrame "hello, push or request" other.label)

/-- The service of a bus server, given how events are carried through their chains. -/
def service (cfg : Config) (raise : Bus.Raise bus) : FrameService (State bus) where
  maxFrame := cfg.maxFrame
  writeLimit := cfg.writeLimit
  answer := answer raise
  release := State.release

end EventBus.Server
