import EventBus.Catalog
import EventBus.Duration
import EventBus.Indexed

/-!
# Dispatch counters

For each kind, a subscriber counts how often it was invoked, how often that failed, and how long it
took in all. The bus counts how often a kind was triggered. Counts have 64 bits and wrap; a single
time beyond 64 bits of nanoseconds counts as the largest one.
-/

namespace EventBus

/-- The counters of one subscriber for one kind. -/
structure Counter where
  /-- Invocations, counted before the handler runs. -/
  invocations : UInt64 := 0
  failures : UInt64 := 0
  latency : UInt64 := 0
  deriving DecidableEq, Repr

/-- The counters of one subscriber. -/
structure Counters (c : Catalog) where
  cells : Indexed Counter c.rows.size

namespace Counters

variable {c : Catalog}

def zero (c : Catalog) : Counters c :=
  ⟨Vector.replicate c.rows.size {}⟩

def get (counters : Counters c) (kind : c.Kind) : Counter :=
  counters.cells.get kind

def modify (kind : c.Kind) (f : Counter → Counter) (counters : Counters c) : Counters c :=
  ⟨counters.cells.modify kind f⟩

def invoked (kind : c.Kind) (counters : Counters c) : Counters c :=
  counters.modify kind fun cell => { cell with invocations := cell.invocations + 1 }

def saturated (elapsed : Duration) : UInt64 :=
  UInt64.ofNat (min elapsed.nanoseconds (UInt64.size - 1))

def finished (kind : c.Kind) (elapsed : Duration) (failed : Bool) (counters : Counters c) : Counters c :=
  counters.modify kind fun cell =>
    { cell with
      latency := cell.latency + saturated elapsed
      failures := if failed then cell.failures + 1 else cell.failures }

theorem get_modify_self (kind : c.Kind) (f : Counter → Counter) (counters : Counters c) :
    (counters.modify kind f).get kind = f (counters.get kind) :=
  Indexed.get_modify_self kind f counters.cells

theorem get_modify_of_ne {kind other : c.Kind} (f : Counter → Counter) (counters : Counters c)
    (h : other ≠ kind) : (counters.modify kind f).get other = counters.get other :=
  Indexed.get_modify_of_ne h f counters.cells

/-- The kinds that were invoked at least once with their counters, in catalog order. -/
def snapshot (counters : Counters c) : List (c.Kind × Counter) :=
  (c.kinds.map fun kind => (kind, counters.get kind)).filter fun (_, cell) => 0 < cell.invocations

end Counters

/-- The trigger counts of a bus. -/
structure Triggers (c : Catalog) where
  counts : Indexed UInt64 c.rows.size

namespace Triggers

variable {c : Catalog}

def zero (c : Catalog) : Triggers c :=
  ⟨Vector.replicate c.rows.size 0⟩

def get (triggers : Triggers c) (kind : c.Kind) : UInt64 :=
  triggers.counts.get kind

def hit (kind : c.Kind) (triggers : Triggers c) : Triggers c :=
  ⟨triggers.counts.modify kind (· + 1)⟩

/-- The kinds that were triggered at least once with their counts, in catalog order. -/
def snapshot (triggers : Triggers c) : List (c.Kind × UInt64) :=
  (c.kinds.map fun kind => (kind, triggers.get kind)).filter fun (_, n) => 0 < n

end Triggers

end EventBus
