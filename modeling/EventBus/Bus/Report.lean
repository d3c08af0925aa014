import EventBus.Bus.Run

/-!
# Reports

What a bus tells about itself: all counters at one point in time, for monitoring.
-/

namespace EventBus.Bus

variable {c : Catalog} {σ : Type}

/-- What is reported about one subscriber. -/
structure SubscriberReport (c : Catalog) where
  name : String
  id : SubscriberId
  site : Site
  activated : Bool
  /-- Its counters for the kinds it was invoked for, in catalog order. -/
  counters : List (c.Kind × Counter)

/-- What is reported about a bus. -/
structure Report (c : Catalog) where
  /-- The kinds that were triggered and how often, in catalog order. -/
  triggers : List (c.Kind × UInt64)
  subscribers : List (SubscriberReport c)

def Run.reportOf {bus : Bus c σ} (run : Run bus) (slot : bus.Slot) : SubscriberReport c :=
  let sub := bus.subscriber slot
  { name := sub.name
    id := sub.id
    site := sub.site
    activated := run.isActive slot
    counters := (run.cell slot).counters.snapshot }

def Run.report {bus : Bus c σ} (run : Run bus) : Report c where
  triggers := run.triggers.snapshot
  subscribers := bus.slots.map run.reportOf

/-- The kinds with a chain that is not empty, with the names in it, in catalog order. -/
def chains (bus : Bus c σ) : List (c.Kind × List String) :=
  (c.kinds.map fun kind => (kind, (bus.chain kind).map fun slot => (bus.subscriber slot).name)).filter
    fun (_, names) => !names.isEmpty

end EventBus.Bus
