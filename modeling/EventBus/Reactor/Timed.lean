import EventBus.Duration
import EventBus.Reactor.Settle

/-!
# Reactors whose services take time

A service may let time pass on a clock in its state. That time is charged to the worker that serves:
until it is over the worker does nothing else. So a connection that becomes ready waits for the first
worker that is free, and what arrives on a connection that is being served waits for the worker that
serves it.

Threads that have nothing to do are asleep, and it takes them a moment to wake up, too short for the
clock. What arrives is therefore noticed only when time passes, or when someone waits for what comes of
it: `arrive` is a move of the surroundings that nobody has noticed yet, and `settle` is what the threads
make of all that has arrived.
-/

namespace EventBus

/-- Where a state keeps its clock. -/
structure ClockIn (σ : Type) where
  get : σ → Duration
  set : Duration → σ → σ

/-- Makes turns alone, up to and including the first one that lets time pass. -/
def Routine.stretch {σ α : Type} (clock : ClockIn σ) : Routine σ α → σ → Routine σ α × σ
  | done value, state => (done value, state)
  | look next, state => (next state).stretch clock state
  | put later rest, state =>
    if clock.get later = clock.get state then rest.stretch clock later else (rest, later)
  | stuck, state => (stuck, state)

namespace Reactor

/-- What a worker spends on a chunk. -/
structure Occupation where
  worker : Nat
  since : Duration
  till : Duration

/-- A reactor at some time. -/
structure Timed (τ : Type) where
  reactor : Reactor τ
  now : Duration := .zero
  /-- What workers are or were occupied with, at most one thing each. -/
  occupied : List Occupation := []
  /-- What the poll thread could be told of when this was last noted, in the order in which it came up. -/
  signals : List PollEvent := []

namespace Timed

variable {τ : Type}

def isFree (worker : Nat) (t : Timed τ) : Bool :=
  t.occupied.all fun o => o.worker != worker || decide (o.till.nanoseconds ≤ t.now.nanoseconds)

def hasBegun (t : Timed τ) : Bool :=
  t.occupied.any fun o => o.since.nanoseconds == t.now.nanoseconds

/-- When the next of the occupied workers will be free. -/
def nextFree? (t : Timed τ) : Option Duration :=
  let later := t.occupied.filterMap fun o =>
    if t.now.nanoseconds < o.till.nanoseconds then some o.till.nanoseconds else none
  later.min?.map Duration.mk

/-! ## At one instant -/

/-- Notes what the poll thread can be told of: what is over is dropped, and what is new comes last. -/
def note (t : Timed τ) : Timed τ :=
  let events := t.reactor.signals
  { t with signals := t.signals.filter events.contains ++ events.filter fun e => !t.signals.contains e }

/-- The next move of the poll thread. It is told first what came up first. While the queue is full it is
told of no connection: it could only arm the connection again, over and over until there is room. -/
def pollMove? (t : Timed τ) : Option Move :=
  let r := t.reactor
  match r.poll with
  | .waiting =>
    let isFull := r.queue.capacity ≤ r.queue.size
    let signals := if isFull then t.note.signals.filter (· = .knock) else t.note.signals
    let events := signals.take r.config.maxEventsClamped
    if events.isEmpty && r.lifecycle = .running then none else some (.wait events)
  | _ => r.pollMove?

/-- Whether a move takes an entry out of the queue. -/
def isPop : Move → Bool
  | .pop _ => true
  | _ => false

/-- The next move, if anything is left to do now. Which thread goes first is nobody's promise, and this is
one order of those that are possible. Workers go before the poll thread, the first of them first. But where
the poll thread is told of one event at a time and a worker has begun just now, the workers after it wake up
together: each takes what is queued for it before any of them goes on, and the last is the first to go on. -/
def nextMove? (t : Timed τ) : Option Move :=
  let r := t.reactor
  let move := fun (worker, index) => if t.isFree index then r.workerMove? index worker else none
  if r.config.maxEventsClamped = 1 && t.hasBegun then
    let moves := r.workers.toList.zipIdx.filterMap move
    moves.find? isPop <|> t.pollMove? <|> moves.getLast? <|> r.shutdownMove?
  else r.workers.zipIdx.findSome? move <|> t.pollMove? <|> r.shutdownMove?

/-- A worker goes on serving a chunk: up to the next turn that takes time, or to the end. -/
def serve? (service : Service τ) (clock : ClockIn τ) (worker : Nat) (t : Timed τ) : Option (Timed τ) :=
  match t.reactor.workers[worker]? with
  | some (.serving token routine) =>
    let (rest, state) := routine.stretch clock (clock.set t.now t.reactor.state)
    let reactor := { t.reactor with state }.setWorker worker (.serving token rest)
    let till := clock.get state
    if t.now.nanoseconds < till.nanoseconds then
      some { t with reactor, occupied := ⟨worker, t.now, till⟩ :: t.occupied.filter (·.worker != worker) }
    else (reactor.step? service (.serve worker)).map fun reactor => { t with reactor }
  | _ => none

def advance? (service : Service τ) (clock : ClockIn τ) (move : Move) (t : Timed τ) : Option (Timed τ) :=
  match move with
  | .serve worker => t.serve? service clock worker
  | .wait _ => (t.reactor.step? service move).map fun reactor => { t.note with reactor }
  | _ => (t.reactor.step? service move).map fun reactor => { t with reactor }

/-- Makes up to `fuel` moves, as long as anything is left to do now. -/
def settleWithin (service : Service τ) (clock : ClockIn τ) : (fuel : Nat) → Timed τ → Timed τ
  | 0, t => t
  | fuel + 1, t =>
    match t.nextMove?.bind fun move => t.advance? service clock move with
    | none => t
    | some t => settleWithin service clock fuel t

/-- Lets the threads go on until nothing is left for them to do now. -/
def settle (service : Service τ) (clock : ClockIn τ) (t : Timed τ) : Timed τ :=
  t.settleWithin service clock t.reactor.settleBound

/-- Makes a move, if it is possible, that the threads have yet to notice. -/
def arrive (service : Service τ) (move : Move) (t : Timed τ) : Timed τ :=
  { t with reactor := (t.reactor.step? service move).getD t.reactor }.note

/-! ## In the course of time -/

/-- Goes on from one instant at which a worker becomes free to the next, up to `fuel` times: until
`enough` holds, or the next instant would be behind the limit, or no worker is occupied any more. -/
def runWithin (service : Service τ) (clock : ClockIn τ) (limit : Option Duration)
    (enough : Timed τ → Bool) : (fuel : Nat) → Timed τ → Timed τ
  | 0, t => t
  | fuel + 1, t =>
    if enough t then t
    else
      match t.nextFree? with
      | none => t
      | some later =>
        if limit.any fun limit => limit.nanoseconds < later.nanoseconds then t
        else runWithin service clock limit enough fuel ({ t with now := later }.settle service clock)

def instants : Nat := 1 <<< 20

/-- Lets time pass until `enough` holds, up to a limit, or until no worker is occupied any more. -/
def run (service : Service τ) (clock : ClockIn τ) (limit : Option Duration) (enough : Timed τ → Bool)
    (t : Timed τ) : Timed τ :=
  t.runWithin service clock limit enough instants

/-- Lets time pass up to an instant. What has arrived is noticed before time goes on. -/
def passTo (service : Service τ) (clock : ClockIn τ) (instant : Duration) (t : Timed τ) : Timed τ :=
  if t.now.nanoseconds < instant.nanoseconds then
    { (t.settle service clock).run service clock (some instant) fun _ => false with now := instant }
  else t

end Timed

end Reactor

end EventBus
