import EventBus.Indexed
import EventBus.Subscriber

/-!
# Buses

A `Bus` is a fixed list of subscribers in the order of their records, and a table that lists for each
kind the slots that receive it. Nothing of it changes while it runs.

* **Slots.** A subscriber is known by its position; slots that are stored are always valid.
* **Chains.** The chain of a kind holds, in the order of the subscribers, those that receive the kind
  and have something that answers for it. An internal subscriber without a handler for a kind is left
  out.
-/

namespace EventBus

/-- For each kind, the slots of its chain. -/
abbrev ChainTable (c : Catalog) (n : Nat) := Indexed (List (Fin n)) c.rows.size

namespace ChainTable

variable {c : Catalog} {σ : Type} {n : Nat}

def empty (c : Catalog) (n : Nat) : ChainTable c n :=
  Vector.replicate c.rows.size []

def append (slot : Fin n) (kind : c.Kind) (table : ChainTable c n) : ChainTable c n :=
  table.modify kind (· ++ [slot])

/-- Enters a subscriber at a slot into the chains of what it receives and serves. -/
def enter (sub : Subscriber c σ) (slot : Fin n) (table : ChainTable c n) : ChainTable c n :=
  sub.inbounds.foldl
    (fun table (kind, _) => if sub.serves kind then append slot kind table else table) table

/-- The chains of subscribers, in their order. -/
def ofSubscribers (subscribers : Array (Subscriber c σ)) : ChainTable c subscribers.size :=
  (List.finRange subscribers.size).foldl (fun table slot => enter subscribers[slot] slot table)
    (empty c subscribers.size)

end ChainTable

/-- A loaded bus. -/
structure Bus (c : Catalog) (σ : Type) where
  config : Config
  /-- The subscribers, in the order of their records. -/
  subscribers : Array (Subscriber c σ)
  table : ChainTable c subscribers.size := .ofSubscribers subscribers
  /-- The chains are those of the subscribers. -/
  table_eq : table = .ofSubscribers subscribers := by rfl

namespace Bus

variable {c : Catalog} {σ : Type}

abbrev Slot (bus : Bus c σ) := Fin bus.subscribers.size

def slots (bus : Bus c σ) : List bus.Slot :=
  List.finRange bus.subscribers.size

def subscriber (bus : Bus c σ) (slot : bus.Slot) : Subscriber c σ :=
  bus.subscribers[slot]

def slotOf? (bus : Bus c σ) (name : String) : Option bus.Slot :=
  bus.slots.find? fun slot => (bus.subscriber slot).name == name

def slotOfId? (bus : Bus c σ) (id : SubscriberId) : Option bus.Slot :=
  bus.slots.find? fun slot => (bus.subscriber slot).id == id

/-- The slots that receive a kind, in the order of dispatch. -/
def chain (bus : Bus c σ) (kind : c.Kind) : List bus.Slot :=
  bus.table.get kind

/-- How many kinds have a chain that is not empty. -/
def populated (bus : Bus c σ) : Nat :=
  bus.table.toList.countP fun chain => !chain.isEmpty

end Bus

end EventBus
