import EventBus.Bus
import EventBus.Log

/-!
# Building a bus

A `Plan` is what a bus is built from: settings, records, and handlers registered under names. The
first check that fails decides the error, in this order:

1. blank and repeated names, record by record;
2. names with the same id;
3. handlers whose name no internal record has, those for all kinds first;
4. record by record: inbound entries, outbound entries, and then handlers for kinds that are not
   received, or a missing endpoint.

What building writes to the log does not depend on what is done with the bus.
-/

namespace EventBus

/-- One registration of a handler. -/
structure Registration (c : Catalog) (σ : Type) where
  subscriber : String
  /-- The kind; `none` for all kinds that the subscriber receives. -/
  kind : Option c.Kind
  handler : Handler c σ

/-- What a bus is built from. -/
structure Plan (c : Catalog) (σ : Type) where
  config : Config
  /-- The records, in the order of dispatch. -/
  records : List Record
  /-- The handlers, in the order of their registration. -/
  registrations : List (Registration c σ)

namespace Plan

variable {c : Catalog} {σ : Type}

/-! ## Names -/

/-- No name is blank and none is repeated, given those seen and the index of the next record. -/
def checkNames (seen : List String) (index : Nat) : List Record → Except ConfigError Unit
  | [] => .ok ()
  | record :: rest =>
    if (Text.trim record.name.toList).isEmpty then .error (.emptyName index)
    else if record.name ∈ seen then .error (.duplicateSubscriber record.name)
    else checkNames (record.name :: seen) (index + 1) rest

/-- No two names have the same id, given the owners of ids so far. -/
def checkIds (owners : List (SubscriberId × String)) : List Record → Except ConfigError Unit
  | [] => .ok ()
  | record :: rest =>
    let id := SubscriberId.ofName record.name
    match owners.lookup id with
    | some first => .error (.idCollision first record.name id)
    | none => checkIds ((id, record.name) :: owners) rest

/-- The names of registrations, those for all kinds first. -/
def handlerNames (plan : Plan c σ) : List String :=
  -- of several stray handlers the error names one for all kinds, if there is one
  let (forAll, forOne) := plan.registrations.partition fun r => r.kind.isNone
  (forAll ++ forOne).map (·.subscriber)

/-- Every handler is registered under the name of an internal record. -/
def checkHandlers (plan : Plan c σ) : Except ConfigError Unit :=
  let names := (plan.records.filter fun record => record.site = .internal).map (·.name)
  match plan.handlerNames.find? fun name => !names.contains name with
  | some name => .error (.unknownHandler name)
  | none => .ok ()

/-! ## Subscribers -/

/-- The handler of a name for all kinds: the last one registered. -/
def fallback? (plan : Plan c σ) (name : String) : Option (Handler c σ) :=
  (plan.registrations.reverse.find? fun r => r.subscriber == name && r.kind.isNone).map (·.handler)

/-- The handlers of a name for single kinds, in the order of their registration. -/
def handlersOf (plan : Plan c σ) (name : String) : List (c.Kind × Handler c σ) :=
  plan.registrations.filterMap fun r =>
    if r.subscriber = name then r.kind.map fun kind => (kind, r.handler) else none

/-- How a record is reached, given what it receives. -/
def target (plan : Plan c σ) (record : Record) (inbounds : List (Record.Grant c)) :
    Except ConfigError (Target c σ) :=
  match record.site with
  | .internal =>
    let handlers := plan.handlersOf record.name
    match handlers.find? fun (kind, _) => (inbounds.lookup kind).isNone with
    | some (kind, _) => .error (.notSubscribed record.name (Catalog.name kind))
    | none => .ok (.internal (plan.fallback? record.name) handlers.reverse)
  | .external =>
    match record.endpoint with
    | some endpoint => .ok (.external (.ofConfig plan.config endpoint))
    | none => .error (.missingEndpoint record.name)

def load (plan : Plan c σ) (record : Record) : Except ConfigError (Subscriber c σ) := do
  let inbounds ← record.resolveInbounds c
  let outbounds ← record.resolveOutbounds c
  let target ← plan.target record inbounds
  return {
    name := record.name
    args := record.args
    scheduling := record.scheduling
    initiallyActivated := record.initiallyActivated
    inbounds
    outbounds
    target }

/-- The subscribers of records up to the first one that does not load, and its failure. -/
def loadAll (plan : Plan c σ) : List Record → List (Subscriber c σ) × Option ConfigError
  | [] => ([], none)
  | record :: rest =>
    match plan.load record with
    | .error e => ([], some e)
    | .ok sub =>
      let (subs, failure) := loadAll plan rest
      (sub :: subs, failure)

/-- The checks that come before any record is loaded. -/
def check (plan : Plan c σ) : Except ConfigError Unit := do
  checkNames [] 0 plan.records
  checkIds [] plan.records
  plan.checkHandlers

def build (plan : Plan c σ) : Except ConfigError (Bus c σ) := do
  plan.check
  match plan.loadAll plan.records with
  | (_, some e) => .error e
  | (subs, none) => return { config := plan.config, subscribers := subs.toArray }

/-! ## The log of building -/

/-- The record of a subscriber without any handler. -/
def idleRecord (sub : Subscriber c σ) : LogRecord :=
  { level := .warn
    message := "internal subscriber has no handler"
    fields := [("subscriber", .text sub.name)] }

/-- The record of a subscriber that is left out of a chain. -/
def leftOutRecord (sub : Subscriber c σ) (kind : c.Kind) : LogRecord :=
  { level := .warn
    message := "no handler registered; left out of chain"
    fields := [("subscriber", .text sub.name), ("event", .text (Catalog.name kind))] }

def loadedRecord (bus : Bus c σ) : LogRecord :=
  { level := .info
    message := "bus loaded"
    fields :=
      [("bus", .text c.label), ("subscribers", .number bus.subscribers.size),
        ("types", .number bus.populated)] }

/-- The records of what the subscribers are left out of. -/
def leftOutRecords (subs : List (Subscriber c σ)) : List LogRecord :=
  subs.flatMap fun sub =>
    (sub.inbounds.filter fun (kind, _) => !sub.serves kind).map fun (kind, _) => leftOutRecord sub kind

def buildLog (plan : Plan c σ) : List LogRecord :=
  match plan.check with
  | .error _ => []
  | .ok () =>
    let (subs, _) := plan.loadAll plan.records
    (subs.filter (·.isIdle)).map idleRecord
      ++ match plan.build with
        | .ok bus => leftOutRecords subs ++ [loadedRecord bus]
        | .error _ => []

end Plan

end EventBus
