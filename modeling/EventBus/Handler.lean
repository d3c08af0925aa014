import EventBus.Event
import EventBus.Log
import EventBus.Routine
import EventBus.Status

/-!
# Handlers

A `Handler` is what an internal subscriber runs for an event. It sees the event and, with WRITE, the
out-structure, and it may use the bus that calls it while it runs: change activations, announce a
subscriber, raise further events, write to the log. It may also look at the world outside the bus and
change it.

What a handler does is a `Program`: a tree whose nodes are these operations, each with the rest of the
program as a function of the answer, and whose leaves say how the call ended. Whoever runs a program
supplies the answers: a bus (`EventBus.Bus.perform`), or a host that has none
(`Program.runDetached`).
-/

namespace EventBus

/-- How a call of a handler ended. -/
inductive Ending where
  | returned (status : Status)
  | panicked (info : String)
  deriving DecidableEq

namespace Ending

/-- The information of a panic that carries no text. -/
def withoutText : Ending := .panicked "non-string panic payload"

def status : Ending → Status
  | returned status => status
  | panicked _ => .panicked

end Ending

/-- What a call of a handler comes to: how it ended, and the out-structure as the handler left it. A
handler that hands none back leaves it as it was. -/
structure Outcome where
  ending : Ending
  /-- The out-structure as the handler left it. -/
  view : Option EventOut := none
  deriving DecidableEq

/-- What a handler does in one call. -/
inductive Program (c : Catalog) (σ : Type) where
  | finish (outcome : Outcome)
  /-- Activates or deactivates a subscriber by name; the answer is whether the name is known. -/
  | setActivated (name : String) (on : Bool) (next : Bool → Program c σ)
  /-- Asks whether a subscriber is activated. -/
  | isActivated (name : String) (next : Bool → Program c σ)
  /-- Announces a subscriber by id and name; the answer is the verdict. -/
  | handshake (id : SubscriberId) (name : String) (next : Status → Program c σ)
  /-- Raises an event with an out-structure; the answers are the status of the chain and the
  out-structure as the chain left it. -/
  | raise (event : Event c) (out : EventOut) (next : Status → EventOut → Program c σ)
  | note (record : LogRecord) (next : Program c σ)
  | look (next : σ → Program c σ)
  | change (f : σ → σ) (next : Program c σ)

namespace Program

variable {c : Catalog} {σ : Type}

/-- Ends a call with a status and the out-structure as it is now. -/
def done (status : Status) (view : Option EventOut) : Program c σ :=
  .finish ⟨.returned status, view⟩

/-- Runs a program where no bus is: no subscriber is known, events reach nobody, and nothing is
logged. -/
def runDetached : Program c σ → Routine σ Outcome
  | finish outcome => pure outcome
  | setActivated _ _ next | isActivated _ next => (next false).runDetached
  | handshake _ _ next => (next .failure).runDetached
  | raise _ out next => (next .ok out).runDetached
  | note _ next => next.runDetached
  | look next => do
    let world ← .ask id
    (next world).runDetached
  | change f next => do
    .change f
    next.runDetached

end Program

/-- An in-process event callback. -/
structure Handler (c : Catalog) (σ : Type) where
  name : String
  /-- What it does for an event; the out-structure is there only with WRITE. -/
  handle : Event c → Option EventOut → Program c σ

end EventBus
