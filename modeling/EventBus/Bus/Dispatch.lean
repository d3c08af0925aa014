import EventBus.Bus.Run

/-!
# Dispatch

`dispatch` walks the chain of an event's kind with one out-structure.

* An empty chain is a success that nobody notices: nothing is counted.
* A slot whose subscriber is not activated when its turn comes is passed over.
* A subscriber receives the out-structure only with WRITE, and only then what it leaves there counts.
* A failure stops the chain of a gated kind if the subscriber holds EXECUTE, and its status is the
  answer. Any other failure is noted and the walk goes on; a chain that ends is a success.
* A remote delivery that fails in the transport deactivates its subscriber, unless the frame was
  refused for its size.

A dispatch is a `Routine` on the state of the bus, because many may be in progress on one bus: every look
at an activation, every count, every operation of a handler and every delivery is a turn of its own.

Handlers may raise further events on the same bus. `depth` bounds how deep such raises nest; a dispatch in
which they nest deeper is stuck.
-/

namespace EventBus.Bus

variable {c : Catalog} {σ : Type}

/-- How an event is carried through a chain: the status, and the out-structure as the chain left it. -/
abbrev Raise (bus : Bus c σ) := Event c → EventOut → Routine (Run bus) (Status × EventOut)

/-- Runs a handler's program on a bus, given how it raises further events. -/
def perform {bus : Bus c σ} (raise : Raise bus) : Program c σ → Routine (Run bus) Outcome
  | .finish outcome => pure outcome
  | .setActivated name on next => do
    let known ← .atomic (Run.setActivated name on)
    perform raise (next known)
  | .isActivated name next => do
    let active ← .ask (Run.isActivated name)
    perform raise (next active)
  | .handshake id name next => do
    let verdict ← .atomic (Run.handshake id name)
    perform raise (next verdict)
  | .raise event out next => do
    .change (Run.enter (.raised event))
    let (status, out) ← raise event out
    perform raise (next status out)
  | .note record next => do
    .change (Run.enter (.noted record))
    perform raise next
  | .look next => do
    let world ← .ask Run.world
    perform raise (next world)
  | .change f next => do
    .change (Run.modifyWorld f)
    perform raise next

/-- What an invocation comes to. -/
structure Response where
  /-- The failure, if it failed. -/
  failure : Option DispatchError
  /-- The out-structure that the subscriber hands back. -/
  view : Option EventOut

def failureOf (name : String) (kind : c.Kind) (status : Status) : Option DispatchError :=
  if status.isOk then none else some (.handlerFailure name (Catalog.name kind) status)

/-- The failure that the end of a handler stands for. -/
def failureOfEnding (name : String) (kind : c.Kind) : Ending → Option DispatchError
  | .returned status => failureOf name kind status
  | .panicked info => some (.handlerPanicked name (Catalog.name kind) info)

def callHandler {bus : Bus c σ} (raise : Raise bus) (name : String) (handler : Handler c σ)
    (event : Event c) (view : Option EventOut) : Routine (Run bus) Response := do
  let outcome ← perform raise (handler.handle event view)
  return ⟨failureOfEnding name event.kind outcome.ending, outcome.view⟩

/-- Sends an event to an external subscriber: as a request if it may write the out-structure or stop
the chain, else without waiting for an answer. -/
def transmit (env : Environment σ) (client : Client) (perm : Perm) (envelope : Envelope)
    (view : Option EventOut) (session : Session σ) :
    (Except TransportError Status × Option EventOut) × Session σ :=
  if perm.write || perm.execute then
    let (result, view, session) := client.request env envelope view session
    ((result, view), session)
  else
    let (result, session) := client.push env envelope session
    ((result.map fun () => .ok, view), session)

/-- Delivers an event to an external subscriber. A failure of the transport deactivates it, unless the
frame was refused for its size. -/
def deliver {bus : Bus c σ} (env : Environment σ) (slot : bus.Slot) (client : Client) (event : Event c)
    (view : Option EventOut) : Routine (Run bus) Response := do
  let sub := bus.subscriber slot
  -- one turn: a client is locked from the first byte of a call to the last one of its answer
  let (result, view) ←
    .atomic (Run.inSession slot (transmit env client (sub.perm event.kind) (.ofEvent event) view))
  -- another thread may serve the same subscriber before the activation changes
  match result with
  | .ok status => return ⟨failureOf sub.name event.kind status, view⟩
  | .error e =>
    if !e.isFrameTooLarge then .change (Run.activate slot false (.delivery e))
    return ⟨some (.transportFailure sub.name (Catalog.name event.kind) e), view⟩

/-- Runs the subscriber at a slot for an event. -/
def invoke {bus : Bus c σ} (env : Environment σ) (raise : Raise bus) (slot : bus.Slot) (event : Event c)
    (view : Option EventOut) : Routine (Run bus) Response :=
  let sub := bus.subscriber slot
  match sub.target with
  | .external client => deliver env slot client event view
  | .internal .. =>
    match sub.handler? event.kind with
    | some handler => callHandler raise sub.name handler event view
    | none => pure ⟨none, view⟩

def viewOf (perm : Perm) (out : EventOut) : Option EventOut :=
  if perm.write then some out else none

/-- The out-structure after a subscriber has handed its view back. -/
def outAfter (perm : Perm) (out : EventOut) (view : Option EventOut) : EventOut :=
  if perm.write then view.getD out else out

/-- Serves an event at a slot: invokes its subscriber and counts that. -/
def serve {bus : Bus c σ} (env : Environment σ) (raise : Raise bus) (slot : bus.Slot) (event : Event c)
    (out : EventOut) : Routine (Run bus) (Option DispatchError × EventOut) := do
  let perm := (bus.subscriber slot).perm event.kind
  -- counted before the subscriber sees the event, so that a snapshot never shows more failures
  let began ← .atomic fun run => (env.now run.world, run.begin slot event)
  let response ← invoke env raise slot event (viewOf perm out)
  .change fun run =>
    let elapsed := ⟨(env.now run.world).nanoseconds - began.nanoseconds⟩
    run.finish slot event.kind elapsed response.failure
  return (response.failure, outAfter perm out response.view)

/-- Whether a failure at a slot stops the chain of a kind. -/
def stops (bus : Bus c σ) (slot : bus.Slot) (kind : c.Kind) : Bool :=
  Catalog.isGated kind && ((bus.subscriber slot).perm kind).execute

/-- Says whether a slot is to be served, and notes it if not. -/
def Run.consider {bus : Bus c σ} (slot : bus.Slot) (event : Event c) (run : Run bus) : Bool × Run bus :=
  if run.isActive slot then (true, run) else (false, run.enter (.passedOver slot event))

def walk {bus : Bus c σ} (env : Environment σ) (raise : Raise bus) (event : Event c) :
    List bus.Slot → EventOut → Routine (Run bus) (Status × EventOut)
  | [], out => pure (.ok, out)
  | slot :: rest, out => do
    -- subscribers in front of this one may have changed its activation
    if ← .atomic (Run.consider slot event) then
      match ← serve env raise slot event out with
      | (none, out) => walk env raise event rest out
      | (some error, out) =>
        if bus.stops slot event.kind then
          .change (Run.enter (.aborted slot event.kind error))
          return (error.status, out)
        else
          .change (Run.enter (.absorbed slot event.kind error))
          walk env raise event rest out
    else walk env raise event rest out

/-- Carries an event through its chain, given how handlers raise further events. -/
def dispatchBy {bus : Bus c σ} (env : Environment σ) (raise : Raise bus) : Raise bus :=
  fun event out =>
    match bus.chain event.kind with
    | [] => pure (.ok, out) -- not even the trigger is counted
    | chain => do
      .change (Run.trigger event)
      walk env raise event chain out

/-- Carries an event through its chain, with raises of handlers nested up to `depth`. -/
def dispatch {bus : Bus c σ} (env : Environment σ) : (depth : Nat) → Raise bus
  | 0 => fun _ _ => .stuck
  | depth + 1 => dispatchBy env (dispatch env depth)

/-- Raises an event with a fresh out-structure, which is handed back. -/
def request {bus : Bus c σ} (env : Environment σ) (depth : Nat) (event : Event c) :
    Routine (Run bus) (Status × EventOut) :=
  dispatch env depth event event.freshOut

/-- Raises an event some times, and adds up how often its chain was a success. -/
def raiseMany {bus : Bus c σ} (env : Environment σ) (depth : Nat) (event : Event c) (successes : Nat) :
    (times : Nat) → Routine (Run bus) Nat
  | 0 => pure successes
  | times + 1 => do
    let (status, _) ← request env depth event
    raiseMany env depth event (if status.isOk then successes + 1 else successes) times

end EventBus.Bus
