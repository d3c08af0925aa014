import EventBus.Environment
import EventBus.Handler.Script
import EventBus.Trial.Unreachable

/-!
# Worlds for trials

A trial runs a bus with scripted handlers and without a network. Its world is the stage of the handlers
and, beside it, whatever stands for the network. In the simplest one nobody listens: no connection ever
comes about.
-/

namespace EventBus.Trial

/-- The surroundings of a bus in a trial. -/
structure World (c : Catalog) (ν : Type) where
  /-- The stage of the bus's handlers, with the clock of the trial. -/
  stage : Stage c := {}
  net : ν

namespace World

variable {c : Catalog} {ν : Type}

def place : Handler.Script.StageIn c (World c ν) where
  get := World.stage
  set stage world := { world with stage }

def handler (tag : String) (actions : List (Action c)) : Handler c (World c ν) :=
  .script place tag actions

/-- What the handlers left behind since this was last asked, oldest first. -/
def takeTrace (world : World c ν) : List (TraceEntry c) × World c ν :=
  let (trace, stage) := world.stage.takeTrace
  (trace, { world with stage })

def setClock (now : Duration) (world : World c ν) : World c ν :=
  { world with stage := { world.stage with clock := now } }

end World

def deserted (c : Catalog) : Environment (World c Unit) where
  connect endpoint world := (.error (unreachable endpoint), world)
  write _ _ world := (.error .brokenPipe, world)
  receive _ _ world := (⟨[], .closed⟩, world)
  close _ world := world
  now world := world.stage.clock

end EventBus.Trial
