import EventBus.Access
import EventBus.Bus
import EventBus.Counters

/-!
# A running bus

A `Run` is the state of a bus between two steps: for each slot the activation, the counters and the
open connection, the trigger counts, the surroundings, and the journal of all that happened so far.

* **The journal** has an entry for every event of a dispatch and for every change of an activation,
  with its cause. Some entries are also written to the log.
* **Activation** changes by a command, by an accepted handshake, or by a delivery that failed in the
  transport; nothing else changes it.
-/

namespace EventBus.Bus

variable {c : Catalog} {σ : Type}

/-- What changes an activation. -/
inductive Cause where
  | command
  | handshake
  /-- A delivery that failed in the transport. -/
  | delivery (error : TransportError)
  deriving DecidableEq

/-- Something that happened on a bus. -/
inductive Entry (bus : Bus c σ) where
  /-- A program raises an event. -/
  | raised (event : Event c)
  /-- An event entered a chain that is not empty. -/
  | triggered (event : Event c)
  /-- A slot was passed over because its subscriber is not activated. -/
  | passedOver (slot : bus.Slot) (event : Event c)
  | invoked (slot : bus.Slot) (event : Event c)
  /-- An invocation ended, with a failure or without. -/
  | finished (slot : bus.Slot) (kind : c.Kind) (failure : Option DispatchError)
  | aborted (slot : bus.Slot) (kind : c.Kind) (error : DispatchError)
  | absorbed (slot : bus.Slot) (kind : c.Kind) (error : DispatchError)
  | activation (slot : bus.Slot) (on changed : Bool) (cause : Cause)
  | refused (id : SubscriberId) (name : String)
  | noted (record : LogRecord)

def failureRecord (level : LogLevel) (words name : String) (kind : c.Kind) (error : DispatchError) :
    LogRecord :=
  { level
    message := words ++ ": " ++ error.message
    fields :=
      [("label", .text error.label), ("subscriber", .text name), ("event", .text (Catalog.name kind)),
        ("status", .number error.status.code.toInt)] }

def Entry.record? {bus : Bus c σ} : Entry bus → Option LogRecord
  | aborted slot kind error =>
    some (failureRecord .warn "chain aborted" (bus.subscriber slot).name kind error)
  | absorbed slot kind error =>
    some (failureRecord .info "failure absorbed" (bus.subscriber slot).name kind error)
  | activation slot on true _ =>
    some
      { level := .info
        message := "activation changed"
        fields := [("subscriber", .text (bus.subscriber slot).name), ("activated", .flag on)] }
  | refused id name =>
    some
      { level := .warn
        message := "handshake rejected"
        fields := [("bus", .text c.label), ("id", .text id.text), ("name", .text name)] }
  | noted record => some record
  | _ => none

/-- What belongs to one slot while a bus runs. -/
structure Cell (c : Catalog) where
  /-- Whether the subscriber receives events. -/
  activated : Bool
  counters : Counters c
  /-- Its open connection, if it is external and has one. -/
  link : Option Link

/-- The state of a bus. -/
structure Run (bus : Bus c σ) where
  cells : Indexed (Cell c) bus.subscribers.size
  triggers : Triggers c
  /-- What happened, newest first. -/
  journal : List (Entry bus)
  world : σ

def start (bus : Bus c σ) (world : σ) : Run bus where
  cells := Vector.ofFn fun slot => ⟨(bus.subscriber slot).initiallyActivated, .zero c, none⟩
  triggers := .zero c
  journal := []
  world

namespace Run

variable {bus : Bus c σ}

def cell (run : Run bus) (slot : bus.Slot) : Cell c :=
  run.cells.get slot

def modifyCell (slot : bus.Slot) (f : Cell c → Cell c) (run : Run bus) : Run bus :=
  { run with cells := run.cells.modify slot f }

/-- Whether the subscriber at a slot receives events. -/
def isActive (run : Run bus) (slot : bus.Slot) : Bool :=
  (run.cell slot).activated

def enter (entry : Entry bus) (run : Run bus) : Run bus :=
  { run with journal := entry :: run.journal }

@[simp]
theorem cell_modifyCell_self (slot : bus.Slot) (f : Cell c → Cell c) (run : Run bus) :
    (run.modifyCell slot f).cell slot = f (run.cell slot) :=
  Indexed.get_modify_self slot f run.cells

theorem cell_modifyCell_of_ne {slot other : bus.Slot} (f : Cell c → Cell c) (run : Run bus)
    (h : other ≠ slot) : (run.modifyCell slot f).cell other = run.cell other :=
  Indexed.get_modify_of_ne h f run.cells

@[simp]
theorem cell_enter (entry : Entry bus) (run : Run bus) (slot : bus.Slot) :
    (run.enter entry).cell slot = run.cell slot := rfl

def modifyWorld (f : σ → σ) (run : Run bus) : Run bus :=
  { run with world := f run.world }

/-- Does something with the connection of a slot and the surroundings. -/
def inSession {α : Type} (slot : bus.Slot) (act : Session σ → α × Session σ) (run : Run bus) :
    α × Run bus :=
  let (answer, session) := act ⟨(run.cell slot).link, run.world⟩
  (answer,
    { run.modifyCell slot fun cell => { cell with link := session.link } with world := session.world })

/-- The log so far, oldest first. -/
def log (run : Run bus) : List LogRecord :=
  run.journal.reverse.filterMap Entry.record?

/-- The log since the journal was last taken, oldest first, and the run with an empty journal. -/
def takeLog (run : Run bus) : List LogRecord × Run bus :=
  (run.log, { run with journal := [] })

/-! ## Counts -/

def trigger (event : Event c) (run : Run bus) : Run bus :=
  { run with triggers := run.triggers.hit event.kind }.enter (.triggered event)

def begin (slot : bus.Slot) (event : Event c) (run : Run bus) : Run bus :=
  (run.modifyCell slot fun cell => { cell with counters := cell.counters.invoked event.kind }).enter
    (.invoked slot event)

def finish (slot : bus.Slot) (kind : c.Kind) (elapsed : Duration) (failure : Option DispatchError)
    (run : Run bus) : Run bus :=
  (run.modifyCell slot fun cell =>
    { cell with counters := cell.counters.finished kind elapsed failure.isSome }).enter
    (.finished slot kind failure)

/-! ## Activation -/

def activate (slot : bus.Slot) (on : Bool) (cause : Cause) (run : Run bus) : Run bus :=
  (run.modifyCell slot fun cell => { cell with activated := on }).enter
    (.activation slot on (run.isActive slot != on) cause)

@[simp]
theorem isActive_activate_self (slot : bus.Slot) (on : Bool) (cause : Cause) (run : Run bus) :
    (run.activate slot on cause).isActive slot = on := by
  simp [activate, isActive]

theorem isActive_activate_of_ne {slot other : bus.Slot} (on : Bool) (cause : Cause) (run : Run bus)
    (h : other ≠ slot) : (run.activate slot on cause).isActive other = run.isActive other := by
  simp [activate, isActive, cell_modifyCell_of_ne _ _ h]

/-- Sets the activation of a subscriber by name; says whether the name is known. -/
def setActivated (name : String) (on : Bool) (run : Run bus) : Bool × Run bus :=
  match bus.slotOf? name with
  | some slot => (true, run.activate slot on .command)
  | none => (false, run)

theorem setActivated_of_slotOf? {name : String} {slot : bus.Slot} (h : bus.slotOf? name = some slot) (on : Bool)
    (run : Run bus) : run.setActivated name on = (true, run.activate slot on .command) := by
  rw [setActivated, h]

theorem setActivated_of_unknown {name : String} (h : bus.slotOf? name = none) (on : Bool) (run : Run bus) :
    run.setActivated name on = (false, run) := by
  rw [setActivated, h]

/-- Whether the subscriber of a name is activated. -/
def isActivated (name : String) (run : Run bus) : Bool :=
  match bus.slotOf? name with
  | some slot => run.isActive slot
  | none => false

/-- The slot that an announcement is for: the external subscriber with this name and this id. -/
def announced? (bus : Bus c σ) (id : SubscriberId) (name : String) : Option bus.Slot :=
  (bus.slotOfId? id).filter fun slot =>
    (bus.subscriber slot).name == name && (bus.subscriber slot).site = .external

/-- Activates an external subscriber that announced itself; both its id and its name have to be those
of one subscriber. -/
def handshake (id : SubscriberId) (name : String) (run : Run bus) : Status × Run bus :=
  match announced? bus id name with
  | some slot => (.ok, run.activate slot true .handshake)
  | none => (.failure, run.enter (.refused id name))

theorem handshake_of_announced {id : SubscriberId} {name : String} {slot : bus.Slot}
    (h : announced? bus id name = some slot) (run : Run bus) :
    run.handshake id name = (.ok, run.activate slot true .handshake) := by
  rw [handshake, h]

theorem handshake_of_unannounced {id : SubscriberId} {name : String} (h : announced? bus id name = none)
    (run : Run bus) : run.handshake id name = (.failure, run.enter (.refused id name)) := by
  rw [handshake, h]

end Run

end EventBus.Bus
