import EventBus.Queue

/-!
# The queue among its threads

Threads share a queue: some append to it, and others take from it and wait while it is empty. A lock makes one turn of
what a thread does to the queue. A thread that finds it empty gives the lock up and falls asleep in the same turn.
Whoever has appended something wakes sleepers only when the lock is free again, so that other threads may have turns in
between.

* `SharedQueue`: the queue, where each of the threads is that take from it, and who has yet to wake sleepers.
* `SharedQueue.step?`: the next turn of a thread; `none` where it is not possible. Any order of possible turns is a run.
* What was accepted and what was taken is kept beside; no turn depends on it.
-/

namespace EventBus

/-- Where a thread is that takes from a queue. -/
inductive Consumer where
  /-- Not at the queue, with the ticket that it took last. -/
  | away (ticket : Option Ticket)
  /-- About to look whether something waits. -/
  | looking
  | asleep
  deriving DecidableEq, Repr

namespace Consumer

/-- Whether the ticket that it took last was a stop. -/
def hasStopped : Consumer → Bool
  | away (some .stop) => true
  | _ => false

/-- Where it is when all sleepers were woken. -/
def woken : Consumer → Consumer
  | asleep => looking
  | consumer => consumer

end Consumer

/-- A queue, and the threads that take from it. -/
structure SharedQueue where
  queue : Queue
  consumers : List Consumer
  /-- How many threads have appended a connection and have yet to wake one sleeper. -/
  calls : Nat := 0
  /-- How many threads have appended stops and have yet to wake all sleepers. -/
  broadcasts : Nat := 0
  /-- The tickets that were accepted, oldest first. -/
  accepted : List Ticket := []
  /-- The tickets that were taken, each with the thread that took it, oldest first. -/
  taken : List (Nat × Ticket) := []

namespace SharedQueue

/-- The turn of a thread. -/
inductive Turn where
  | push (token : Token)
  | pushStops (workers : Nat)
  /-- One sleeper is woken, any of them; none if nobody sleeps. -/
  | call (woken : Option Nat)
  /-- All sleepers are woken. -/
  | broadcast
  /-- A thread comes to take a ticket. -/
  | come (consumer : Nat)
  /-- It takes the one that has waited longest, or falls asleep. -/
  | look (consumer : Nat)
  /-- A sleeper wakes for no reason. -/
  | stir (consumer : Nat)
  deriving DecidableEq

/-- An empty queue; nobody is there yet. -/
def start (capacity consumers : Nat) : SharedQueue where
  queue := .ofCapacity capacity
  consumers := .replicate consumers (.away none)

def setConsumer (consumer : Nat) (next : Consumer) (s : SharedQueue) : SharedQueue :=
  { s with consumers := s.consumers.set consumer next }

/-- Hands a consumer a ticket that was taken out of the queue. -/
def hand (consumer : Nat) (ticket : Ticket) (queue : Queue) (s : SharedQueue) : SharedQueue :=
  { s.setConsumer consumer (.away (some ticket)) with queue, taken := s.taken ++ [(consumer, ticket)] }

def wakeAll (s : SharedQueue) : SharedQueue :=
  { s with consumers := s.consumers.map Consumer.woken }

/-- The state after a turn, if it is possible. -/
def step? (s : SharedQueue) : Turn → Option SharedQueue
  | .push token =>
    match s.queue.push token with
    | .error _ => some s
    | .ok queue => some { s with queue, calls := s.calls + 1, accepted := s.accepted ++ [.connection token] }
  | .pushStops workers =>
    some
      { s with
        queue := s.queue.pushStops workers
        broadcasts := s.broadcasts + 1
        accepted := s.accepted ++ .replicate workers .stop }
  | .call (some consumer) =>
    if 0 < s.calls ∧ s.consumers[consumer]? = some .asleep then
      some { s.setConsumer consumer .looking with calls := s.calls - 1 }
    else none
  | .call none =>
    if 0 < s.calls ∧ .asleep ∉ s.consumers then some { s with calls := s.calls - 1 } else none
  | .broadcast =>
    if 0 < s.broadcasts then
      some { s.wakeAll with broadcasts := s.broadcasts - 1 }
    else none
  | .come consumer =>
    match s.consumers[consumer]? with
    | some (.away _) => some (s.setConsumer consumer .looking)
    | _ => none
  | .look consumer =>
    if s.consumers[consumer]? = some .looking then
      match s.queue.pop? with
      | none => some (s.setConsumer consumer .asleep)
      | some (ticket, queue) => some (s.hand consumer ticket queue)
    else none
  | .stir consumer =>
    if s.consumers[consumer]? = some .asleep then some (s.setConsumer consumer .looking) else none

/-- A worker never comes again once it has taken a stop. -/
def Heeds (s : SharedQueue) : Turn → Prop
  | .come consumer => s.consumers[consumer]? ≠ some (.away (some .stop))
  | _ => True

instance (s : SharedQueue) : ∀ turn, Decidable (s.Heeds turn)
  | .come consumer => inferInstanceAs (Decidable (s.consumers[consumer]? ≠ some (.away (some .stop))))
  | .push _ | .pushStops _ | .call _ | .broadcast | .look _ | .stir _ => .isTrue trivial

end SharedQueue

end EventBus
