import EventBus.Endpoint

/-!
# Subscriber records

A `Record` is one entry of the ordered list that configures a bus. The order of the list is the order
of every chain built from it. Entries stay as they were written; resolving them is the matter of
`EventBus.Record.Entries`.
-/

namespace EventBus

/-- How a subscriber is scheduled. -/
inductive Scheduling where
  | general
  | autonomous
  deriving DecidableEq, Repr

/-- Where a subscriber runs. -/
inductive Site where
  /-- In the process of the bus, called directly. -/
  | internal
  /-- In another process or on another host, reached through the transport. -/
  | external
  deriving DecidableEq, Repr

namespace Scheduling

def label : Scheduling → String
  | general => "general"
  | autonomous => "autonomous"

def variants : List (String × Scheduling) :=
  [("general", general), ("autonomous", autonomous)]

end Scheduling

namespace Site

def label : Site → String
  | internal => "internal"
  | external => "external"

def variants : List (String × Site) :=
  [("internal", internal), ("external", external)]

end Site

/-- One configured subscriber. -/
structure Record where
  /-- The name, which also gives the id. -/
  name : String
  /-- Arguments, kept for the subscriber itself. -/
  args : String := ""
  scheduling : Scheduling := .general
  site : Site := .internal
  /-- The letters of inbound entries that have none. -/
  perm : Option String := none
  /-- What it receives: names of kinds or group tags, each with letters behind a comma or without. -/
  inbounds : List String := []
  outbounds : List String := []
  /-- Where an external subscriber listens. -/
  endpoint : Option Endpoint := none
  /-- Whether it starts activated, when that is not left to the site. -/
  activated : Option Bool := none
  deriving DecidableEq

/-- Whether a subscriber starts activated: as the record says, else exactly when it is internal. An
external one waits for its handshake. -/
def Record.initiallyActivated (record : Record) : Bool :=
  record.activated.getD (record.site = .internal)

end EventBus
