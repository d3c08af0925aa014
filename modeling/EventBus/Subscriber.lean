import EventBus.Client
import EventBus.Handler
import EventBus.Record.Entries

/-!
# Loaded subscribers

A `Subscriber` is a record after loading: its entries are resolved to kinds, and it knows how it is
reached. What changes while the bus runs (activation, counters, the open connection) is not part of it.
-/

namespace EventBus

/-- How a subscriber is reached. -/
inductive Target (c : Catalog) (σ : Type) where
  /-- By calling a handler: the one for the kind, latest registration first, else the one for all
  kinds. -/
  | internal (fallback : Option (Handler c σ)) (byKind : List (c.Kind × Handler c σ))
  | external (client : Client)

/-- A loaded subscriber. -/
structure Subscriber (c : Catalog) (σ : Type) where
  /-- The name, which also gives the id. -/
  name : String
  /-- Arguments, kept for the subscriber itself. -/
  args : String
  scheduling : Scheduling
  initiallyActivated : Bool
  /-- What it receives and with which permissions, each kind once. -/
  inbounds : List (Record.Grant c)
  outbounds : List c.Kind
  target : Target c σ

namespace Subscriber

variable {c : Catalog} {σ : Type}

def id (sub : Subscriber c σ) : SubscriberId :=
  .ofName sub.name

def site (sub : Subscriber c σ) : Site :=
  match sub.target with
  | .internal .. => .internal
  | .external _ => .external

/-- The permission it holds for a kind; empty for a kind it does not receive. -/
def perm (sub : Subscriber c σ) (kind : c.Kind) : Perm :=
  (sub.inbounds.lookup kind).getD .empty

/-- The handler that it runs for a kind, if it runs here and has one. -/
def handler? (sub : Subscriber c σ) (kind : c.Kind) : Option (Handler c σ) :=
  match sub.target with
  | .internal fallback byKind => byKind.lookup kind <|> fallback
  | .external _ => none

/-- Whether something answers for a kind: a handler, or the other end of the transport. -/
def serves (sub : Subscriber c σ) (kind : c.Kind) : Bool :=
  match sub.target with
  | .internal .. => (sub.handler? kind).isSome
  | .external _ => true

/-- Where it listens, if it is external. -/
def endpoint? (sub : Subscriber c σ) : Option Endpoint :=
  match sub.target with
  | .internal .. => none
  | .external client => some client.endpoint

/-- Whether it receives something but has no handler at all. -/
def isIdle (sub : Subscriber c σ) : Bool :=
  match sub.target with
  | .internal none [] => !sub.inbounds.isEmpty
  | _ => false

end Subscriber

end EventBus
