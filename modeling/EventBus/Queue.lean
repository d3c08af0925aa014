import EventBus.Error.Transport
import EventBus.Token

/-!
# The queue of ready connections

The poll thread puts connections that have something to read into a queue, and workers take them out
in the same order. The queue is bounded: a connection that finds it full is refused. A stop for a
worker is always taken, so that a full queue does not keep workers from stopping.
-/

namespace EventBus

/-- What a worker takes out of the queue. -/
inductive Ticket where
  | connection (token : Token)
  | stop
  deriving DecidableEq, Repr

/-- The queue between the poll thread and the workers. -/
structure Queue where
  /-- How many entries leave no room for a connection. -/
  capacity : Nat
  /-- What waits, the next one first. -/
  waiting : List Ticket
  capacity_pos : 0 < capacity

namespace Queue

/-- An empty queue; a capacity of zero counts as one. -/
def ofCapacity (n : Nat) : Queue where
  capacity := max n 1
  waiting := []
  capacity_pos := by omega

def size (q : Queue) : Nat :=
  q.waiting.length

def isEmpty (q : Queue) : Bool :=
  q.waiting.isEmpty

/-- Appends a connection, unless the queue is full. -/
def push (token : Token) (q : Queue) : Except TransportError Queue :=
  if q.capacity ≤ q.size then .error (.queueFull q.capacity)
  else .ok { q with waiting := q.waiting ++ [.connection token] }

/-- Appends stops, whether the queue is full or not. -/
def pushStops (workers : Nat) (q : Queue) : Queue :=
  { q with waiting := q.waiting ++ List.replicate workers .stop }

/-- Takes the entry that has waited longest; `none` if nothing waits. -/
def pop? (q : Queue) : Option (Ticket × Queue) :=
  match q.waiting with
  | [] => none
  | ticket :: rest => some (ticket, { q with waiting := rest })

theorem push_eq_ok_iff {token : Token} {q next : Queue} :
    q.push token = .ok next ↔
      q.size < q.capacity ∧ next = { q with waiting := q.waiting ++ [.connection token] } := by
  unfold push
  split
  · simp only [reduceCtorEq, false_iff, not_and]
    omega
  · simp only [Except.ok.injEq]
    constructor
    · rintro rfl
      exact ⟨by omega, rfl⟩
    · exact fun h => h.2.symm

theorem pop?_eq_some_iff {q next : Queue} {ticket : Ticket} :
    q.pop? = some (ticket, next) ↔ q.waiting = ticket :: next.waiting ∧ next.capacity = q.capacity := by
  obtain ⟨capacity, waiting, hpos⟩ := q
  obtain ⟨capacity', waiting', hpos'⟩ := next
  cases waiting with
  | nil => simp [pop?]
  | cons first rest =>
    simp only [pop?, Option.some.injEq, Prod.mk.injEq, Queue.mk.injEq, List.cons.injEq]
    constructor
    · rintro ⟨rfl, rfl, rfl⟩
      exact ⟨⟨rfl, rfl⟩, rfl⟩
    · rintro ⟨⟨rfl, rfl⟩, rfl⟩
      exact ⟨rfl, rfl, rfl⟩

end Queue

end EventBus
