import EventBus.Config
import EventBus.Handler
import EventBus.Service

/-!
# Subscriber hosts

The other end of an external subscriber: a host runs the subscriber's handler for the events that a bus
delivers. A push is not answered; a request is, with the status and the out-structure as the handler left
it. The reply carries an out-structure exactly if the request did.
-/

namespace EventBus.Host

variable {c : Catalog} {σ : Type}

/-- Runs the handler; what it does to an out-structure that is not there is lost. -/
def run (handler : Handler c σ) (event : Event c) (view : Option EventOut) :
    Routine σ (Status × Option EventOut) := do
  let outcome ← (handler.handle event view).runDetached
  return (outcome.ending.status, view.map fun out => outcome.view.getD out)

def answer (handler : Handler c σ) (frame : Frame) : Routine σ Answer := do
  match frame with
  | .push envelope =>
    match envelope.toEvent c with
    | .ok event =>
      let _ ← run handler event none
      return .silent
    | .error _ => return .silent
  | .request envelope out =>
    match envelope.toEvent c with
    | .ok event =>
      let (status, out) ← run handler event out
      return .reply (.reply status out)
    | .error _ => return .reply (.reply .failure out)
  | other => return .refuse (.unexpectedFrame "push or request" other.label)

def service (cfg : Config) (handler : Handler c σ) : FrameService σ where
  maxFrame := cfg.maxFrame
  writeLimit := cfg.writeLimit
  answer _ frame := answer handler frame
  release _ world := world

end EventBus.Host
