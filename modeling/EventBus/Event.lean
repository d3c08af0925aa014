import EventBus.Bytes
import EventBus.Catalog
import EventBus.SubscriberId

/-!
# Events and the out-structure

An `Event` is what every subscriber of a chain sees: who raised it, its kind and its payload. One
`EventOut` travels along the chain beside it; only subscribers with WRITE receive it, and each of
them finds what the earlier ones wrote.
-/

namespace EventBus

/-- An event of a catalog. -/
structure Event (c : Catalog) where
  origin : SubscriberId
  kind : c.Kind
  /-- The record that its producer encoded. -/
  payload : Bytes
  deriving DecidableEq

/-- The part of a dispatch that subscribers may write. -/
structure EventOut where
  /-- A checksum, zero at first. -/
  checksum : UInt32
  /-- The record, at first the payload. -/
  data : Bytes
  deriving DecidableEq

namespace Event

def length {c : Catalog} (event : Event c) : Nat :=
  event.payload.length

/-- The out-structure that a raise starts with. -/
def freshOut {c : Catalog} (event : Event c) : EventOut :=
  ⟨0, event.payload⟩

end Event

def EventOut.empty : EventOut := ⟨0, []⟩

instance : Inhabited EventOut := ⟨EventOut.empty⟩

end EventBus
