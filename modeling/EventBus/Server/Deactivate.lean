import EventBus.Reactor.Step
import EventBus.Server

/-!
# Deactivation at a server

A server deactivates a subscriber by closing the door behind it: the subscriber receives no more events,
and every connection that is bound to it is asked to close.
-/

namespace EventBus.Server

variable {c : Catalog} {σ : Type} {bus : Bus c σ}

/-- A routine on the state of a reactor's service. -/
def onState {α : Type} (routine : Routine (State bus) α) : Routine (Reactor (State bus)) α :=
  routine.within Reactor.state fun state r => { r with state }

/-- Asks a connection to close; one that is closed already is left alone. -/
def disconnect (token : Token) (r : Reactor (State bus)) : Reactor (State bus) :=
  (r.outerStep? (.disconnect token)).getD r

/-- Asks connections to close, one after the other. -/
def disconnectAll : List Token → Routine (Reactor (State bus)) Unit
  | [] => pure ()
  | token :: rest => do
    .change (disconnect token)
    disconnectAll rest

/-- Deactivates a subscriber and closes the connections that are bound to it; says whether the name is
known. -/
def deactivate (name : String) : Routine (Reactor (State bus)) Bool := do
  match bus.slotOf? name with
  | none => return false
  | some slot =>
    onState (onBus (.change (Bus.Run.activate slot false .command)))
    -- a connection that is bound after this turn is not among them
    let tokens ← onState (.ask fun state => state.boundTo (bus.subscriber slot).id)
    disconnectAll tokens
    return true

end EventBus.Server
