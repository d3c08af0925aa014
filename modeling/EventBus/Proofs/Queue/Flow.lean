import EventBus.Queue.Shared
import Mathlib.Data.List.Basic

/-!
# Tickets on their way through the queue

What holds of a queue after any turns of its threads, whoever comes and takes, and whatever it takes.

* `SharedQueue.Does`: what each turn does. `step?_eq_some_iff` is the inversion from which all invariants are derived.
* `SharedQueue.Flows`: no ticket is lost, duplicated or overtaken, connections keep to the capacity, and no sleeper is
  forgotten. `Flows.step` and `Reaches.flows` are the step and the run.
-/

namespace EventBus

namespace Ticket

/-- The ticket is one for a connection. -/
def isConnection : Ticket → Bool
  | connection _ => true
  | stop => false

end Ticket

namespace SharedQueue

variable {s t : SharedQueue} {turn : Turn}

/-! ## Turns -/

/-- What a turn does. -/
inductive Does (s : SharedQueue) : Turn → SharedQueue → Prop where
  | pushed {token : Token} (hroom : s.queue.size < s.queue.capacity) :
    Does s (.push token)
      { s with
        queue := { s.queue with waiting := s.queue.waiting ++ [.connection token] }
        calls := s.calls + 1
        accepted := s.accepted ++ [.connection token] }
  | refused {token : Token} (hfull : s.queue.capacity ≤ s.queue.size) : Does s (.push token) s
  | stopsPushed {workers : Nat} :
    Does s (.pushStops workers)
      { s with
        queue := { s.queue with waiting := s.queue.waiting ++ .replicate workers .stop }
        broadcasts := s.broadcasts + 1
        accepted := s.accepted ++ .replicate workers .stop }
  | called {consumer : Nat} (hcalls : 0 < s.calls) (hasleep : s.consumers[consumer]? = some .asleep) :
    Does s (.call (some consumer)) { s.setConsumer consumer .looking with calls := s.calls - 1 }
  | unheard (hcalls : 0 < s.calls) (hawake : .asleep ∉ s.consumers) :
    Does s (.call none) { s with calls := s.calls - 1 }
  | allWoken (hbroadcasts : 0 < s.broadcasts) :
    Does s .broadcast { s.wakeAll with broadcasts := s.broadcasts - 1 }
  | came {consumer : Nat} {last : Option Ticket} (haway : s.consumers[consumer]? = some (.away last)) :
    Does s (.come consumer) (s.setConsumer consumer .looking)
  | took {consumer : Nat} {ticket : Ticket} {rest : List Ticket} (hlooking : s.consumers[consumer]? = some .looking)
      (hwaiting : s.queue.waiting = ticket :: rest) :
    Does s (.look consumer) (s.hand consumer ticket { s.queue with waiting := rest })
  | slept {consumer : Nat} (hlooking : s.consumers[consumer]? = some .looking) (hwaiting : s.queue.waiting = []) :
    Does s (.look consumer) (s.setConsumer consumer .asleep)
  | stirred {consumer : Nat} (hasleep : s.consumers[consumer]? = some .asleep) :
    Does s (.stir consumer) (s.setConsumer consumer .looking)

/-- A possible turn does one of the things in `Does`. -/
theorem does_of_step? (h : s.step? turn = some t) : s.Does turn t := by
  -- one case for each sort of turn, and each outcome of the guards in it
  cases turn with
  | push token =>
    rw [step?, Queue.push] at h
    split at h
    · next hpush =>
      cases h
      refine .refused (Nat.le_of_not_lt fun hroom => ?_)
      rw [if_neg (Nat.not_le_of_lt hroom)] at hpush
      cases hpush
    · next hpush =>
      cases h
      obtain ⟨hroom, rfl⟩ := Queue.push_eq_ok_iff.mp hpush
      exact .pushed hroom
  | pushStops workers =>
    cases h
    exact .stopsPushed
  | call woken =>
    cases woken with
    | none =>
      obtain ⟨⟨hcalls, hawake⟩, h⟩ := Option.ite_none_right_eq_some.mp h
      cases h
      exact .unheard hcalls hawake
    | some consumer =>
      obtain ⟨⟨hcalls, hasleep⟩, h⟩ := Option.ite_none_right_eq_some.mp h
      cases h
      exact .called hcalls hasleep
  | broadcast =>
    obtain ⟨hbroadcasts, h⟩ := Option.ite_none_right_eq_some.mp h
    cases h
    exact .allWoken hbroadcasts
  | come consumer =>
    rw [step?] at h
    split at h
    · next haway =>
      cases h
      exact .came haway
    · cases h
  | look consumer =>
    obtain ⟨hlooking, h⟩ := Option.ite_none_right_eq_some.mp h
    rw [Queue.pop?] at h
    cases hwaiting : s.queue.waiting with
    | nil =>
      rw [hwaiting] at h
      cases h
      exact .slept hlooking hwaiting
    | cons ticket rest =>
      rw [hwaiting] at h
      cases h
      exact .took hlooking hwaiting
  | stir consumer =>
    obtain ⟨hasleep, h⟩ := Option.ite_none_right_eq_some.mp h
    cases h
    exact .stirred hasleep

theorem Does.step?_eq (h : s.Does turn t) : s.step? turn = some t := by
  cases h with
  | pushed hroom =>
    rw [step?, Queue.push, if_neg (Nat.not_le_of_lt hroom)]
  | refused hfull => rw [step?, Queue.push, if_pos hfull]
  | stopsPushed => rfl
  | called hcalls hasleep => rw [step?, if_pos ⟨hcalls, hasleep⟩]
  | unheard hcalls hawake => rw [step?, if_pos ⟨hcalls, hawake⟩]
  | allWoken hbroadcasts => rw [step?, if_pos hbroadcasts]
  | came haway => rw [step?, haway]
  | took hlooking hwaiting => rw [step?, if_pos hlooking, Queue.pop?, hwaiting]
  | slept hlooking hwaiting => rw [step?, if_pos hlooking, Queue.pop?, hwaiting]
  | stirred hasleep => rw [step?, if_pos hasleep]

theorem step?_eq_some_iff : s.step? turn = some t ↔ s.Does turn t :=
  ⟨does_of_step?, Does.step?_eq⟩

/-- What comes of a queue by turns that may be made. -/
inductive Reaches (may : SharedQueue → Turn → Prop) (first : SharedQueue) : SharedQueue → Prop where
  | refl : Reaches may first first
  | step {s t : SharedQueue} {turn : Turn} (h : Reaches may first s) (hmay : may s turn)
      (hstep : s.step? turn = some t) : Reaches may first t

/-! ## The flow of tickets -/

/-- How many consumers are of some sort, when one of them has changed. -/
theorem countP_set_add {consumers : List Consumer} {consumer : Nat} {old : Consumer}
    (h : consumers[consumer]? = some old) (p : Consumer → Bool) (next : Consumer) :
    (consumers.set consumer next).countP p + (p old).toNat = consumers.countP p + (p next).toNat := by
  induction consumers generalizing consumer with
  | nil => cases h
  | cons first rest ih =>
    cases consumer with
    | zero =>
      obtain rfl : first = old := Option.some.inj h
      rw [List.set_cons_zero, List.countP_cons, List.countP_cons]
      cases p first <;> cases p next <;> simp
    | succ consumer =>
      have hrest := ih h
      rw [List.set_cons_succ, List.countP_cons, List.countP_cons]
      omega

/-- Nobody falls asleep by turning to something else. -/
theorem asleep_of_mem_set {consumers : List Consumer} {consumer : Nat} {next : Consumer} (hnext : next ≠ .asleep)
    (h : .asleep ∈ consumers.set consumer next) : .asleep ∈ consumers :=
  (List.mem_or_eq_of_mem_set h).resolve_right hnext.symm

/-- How many consumers are about to look whether something waits. -/
def lookers (s : SharedQueue) : Nat :=
  s.consumers.countP (· = .looking)

/-- A consumer that begins to look is one more. -/
theorem lookers_looking {consumer : Nat} {old : Consumer} (h : s.consumers[consumer]? = some old) (hold : old ≠ .looking) :
    (s.setConsumer consumer .looking).lookers = s.lookers + 1 := by
  have hlookers := countP_set_add h (· = .looking) .looking
  simpa [lookers, setConsumer, hold] using hlookers

theorem lookers_of_looking {consumer : Nat} {next : Consumer} (h : s.consumers[consumer]? = some .looking)
    (hnext : next ≠ .looking) : (s.setConsumer consumer next).lookers + 1 = s.lookers := by
  have hlookers := countP_set_add h (· = .looking) next
  simpa [lookers, setConsumer, hnext] using hlookers

/-- What holds of a queue of some capacity, whatever turns its threads have made. -/
structure Flows (capacity : Nat) (s : SharedQueue) : Prop where
  capacity_eq : s.queue.capacity = max capacity 1
  /-- What was taken and then what waits is what was accepted, in its order. -/
  ordered : s.taken.map Prod.snd ++ s.queue.waiting = s.accepted
  bounded : s.queue.waiting.countP Ticket.isConnection ≤ max capacity 1
  /-- While someone sleeps, for each ticket that waits a thread is about to look or to wake one that will. -/
  heard : .asleep ∈ s.consumers → 0 < s.broadcasts ∨ s.queue.size ≤ s.lookers + s.calls

/-- In the beginning nothing waits and nothing was accepted. -/
theorem flows_start (capacity consumers : Nat) : (start capacity consumers).Flows capacity where
  capacity_eq := rfl
  ordered := rfl
  bounded := Nat.zero_le _
  heard _ := .inr (Nat.zero_le _)

theorem Does.capacity_eq (h : s.Does turn t) : t.queue.capacity = s.queue.capacity := by
  cases h <;> rfl

/-- What was taken and what waits is what was accepted, in that order: tickets come in at the end and go out at the
front. -/
theorem Does.ordered (h : s.Does turn t) (hordered : s.taken.map Prod.snd ++ s.queue.waiting = s.accepted) :
    t.taken.map Prod.snd ++ t.queue.waiting = t.accepted := by
  cases h with
  | pushed hroom =>
    dsimp only
    rw [← hordered, List.append_assoc]
  | stopsPushed =>
    dsimp only
    rw [← hordered, List.append_assoc]
  | took hlooking hwaiting =>
    show (s.taken ++ [_]).map Prod.snd ++ _ = s.accepted
    rw [← hordered, hwaiting, List.map_append, List.append_assoc]
    rfl
  | refused | called | unheard | allWoken | came | slept | stirred => exact hordered

/-- A connection is accepted only while there is room for it, and stops take room but are not counted. -/
theorem Does.bounded (h : s.Does turn t)
    (hbounded : s.queue.waiting.countP Ticket.isConnection ≤ s.queue.capacity) :
    t.queue.waiting.countP Ticket.isConnection ≤ s.queue.capacity := by
  cases h with
  | pushed hroom =>
    have hconnections := @List.countP_le_length _ Ticket.isConnection s.queue.waiting
    rw [Queue.size] at hroom
    dsimp only
    rw [List.countP_append, List.countP_singleton, Ticket.isConnection, if_pos rfl]
    omega
  | @stopsPushed workers =>
    -- stops are pushed past the capacity, but the bound is on connections
    have hstops : (List.replicate workers Ticket.stop).countP Ticket.isConnection = 0 :=
      List.countP_eq_zero.mpr fun ticket hticket => by rw [List.eq_of_mem_replicate hticket]; decide
    dsimp only
    rwa [List.countP_append, hstops, Nat.add_zero]
  | took hlooking hwaiting =>
    rw [hwaiting, List.countP_cons] at hbounded
    exact Nat.le_trans (Nat.le_add_right _ _) hbounded
  | refused | called | unheard | allWoken | came | slept | stirred => exact hbounded

/-- Nobody sleeps unheard. A ticket comes with a call, and who takes one has looked. -/
theorem Does.heard (h : s.Does turn t)
    (hheard : .asleep ∈ s.consumers → 0 < s.broadcasts ∨ s.queue.size ≤ s.lookers + s.calls)
    (hasleep : .asleep ∈ t.consumers) : 0 < t.broadcasts ∨ t.queue.size ≤ t.lookers + t.calls := by
  cases h with
  | @pushed token hroom =>
    -- one more ticket, and one more call
    refine (hheard hasleep).imp_right fun hsize => ?_
    show (s.queue.waiting ++ [Ticket.connection token]).length ≤ s.lookers + (s.calls + 1)
    rw [Queue.size] at hsize
    rw [List.length_append, List.length_singleton]
    omega
  | refused => exact hheard hasleep
  | stopsPushed => exact .inl (Nat.succ_pos _)
  | @called consumer hcalls hsleeper =>
    -- one call less, and the one who is called will look
    refine (hheard (asleep_of_mem_set (by decide) hasleep)).imp_right fun hsize => ?_
    show s.queue.size ≤ (s.setConsumer consumer .looking).lookers + (s.calls - 1)
    rw [lookers_looking hsleeper (by decide)]
    omega
  | unheard hcalls hawake => exact absurd hasleep hawake
  | allWoken hbroadcasts =>
    obtain ⟨consumer, -, hconsumer⟩ := List.mem_map.mp hasleep
    cases consumer <;> cases hconsumer
  | @came consumer last haway =>
    refine (hheard (asleep_of_mem_set (by decide) hasleep)).imp_right fun hsize => ?_
    show s.queue.size ≤ (s.setConsumer consumer .looking).lookers + s.calls
    rw [lookers_looking haway (by simp)]
    omega
  | @took consumer ticket rest hlooking hwaiting =>
    -- one ticket less, and one who looks
    refine (hheard (asleep_of_mem_set (by simp) hasleep)).imp_right fun hsize => ?_
    have hlookers := lookers_of_looking hlooking (show Consumer.away (some ticket) ≠ .looking by simp)
    show rest.length ≤ (s.setConsumer consumer (.away (some ticket))).lookers + s.calls
    rw [Queue.size, hwaiting, List.length_cons] at hsize
    omega
  | @slept consumer hlooking hwaiting =>
    refine .inr ?_
    show s.queue.waiting.length ≤ _
    rw [hwaiting]
    exact Nat.zero_le _
  | @stirred consumer hsleeper =>
    refine (hheard (asleep_of_mem_set (by decide) hasleep)).imp_right fun hsize => ?_
    show s.queue.size ≤ (s.setConsumer consumer .looking).lookers + s.calls
    rw [lookers_looking hsleeper (by decide)]
    omega

/-- Every turn keeps the order, the capacity and that no sleeper is forgotten. -/
theorem Flows.step {capacity : Nat} (h : s.Flows capacity) (hdoes : s.Does turn t) : t.Flows capacity where
  capacity_eq := hdoes.capacity_eq.trans h.capacity_eq
  ordered := hdoes.ordered h.ordered
  bounded := h.capacity_eq ▸ hdoes.bounded (h.capacity_eq ▸ h.bounded)
  heard := hdoes.heard h.heard

/-- Every run keeps the order, the capacity and that no sleeper is forgotten. -/
theorem Reaches.flows {may : SharedQueue → Turn → Prop} {capacity consumers : Nat}
    (h : Reaches may (start capacity consumers) s) : s.Flows capacity := by
  induction h with
  | refl => exact flows_start capacity consumers
  | step _ _ hstep ih => exact ih.step (step?_eq_some_iff.mp hstep)

end SharedQueue

end EventBus
