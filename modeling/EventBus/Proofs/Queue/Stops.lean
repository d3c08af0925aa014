import EventBus.Proofs.Queue.Flow
import Mathlib.Data.List.Count

/-!
# Stopping the workers of a queue

Workers that take from a queue, and never come again once they have taken a stop. One stop for each of them is appended
while producers go on.

* `SharedQueue.Heeded`: which workers have stopped, in terms of what was taken. `Heeded.step` and `Reaches.heeded` are
  the step and the run.
* `SharedQueue.left`: how far the workers are from the end. No turn makes it more, and each one that moves a worker makes
  it less (`Does.left_le`). `ShutDown.mayMove`: while a worker has not stopped, a turn is due that moves one.
* `SharedQueue.Fair`: a run in which such turns are made sooner or later. `Fair.exists_stopped` is the induction.
* `SharedQueue.tickets_in_order` is the result on all runs.
-/

namespace EventBus

/-- Whether it sleeps, or is not at the queue and will come. -/
def Consumer.isIdle (consumer : Consumer) : Bool :=
  consumer != .looking && !consumer.hasStopped

namespace SharedQueue

variable {s t : SharedQueue} {turn : Turn} {workers : Nat}

/-! ## Who has stopped -/

/-- What holds of a queue whose workers heed the stops that they take. -/
structure Heeded (workers : Nat) (s : SharedQueue) : Prop where
  length_eq : s.consumers.length = workers
  stops_eq : (s.taken.map Prod.snd).count .stop = s.consumers.countP Consumer.hasStopped
  /-- A worker has taken one stop if it has stopped, and none before. -/
  own : ∀ worker, s.taken.count (worker, .stop) = if s.consumers[worker]?.any Consumer.hasStopped then 1 else 0
  /-- Nothing is taken when all workers have stopped. -/
  early : ∀ front ticket back, s.taken.map Prod.snd = front ++ ticket :: back → front.count .stop < workers

/-- In the beginning nobody has stopped, and nothing was taken. -/
theorem heeded_start (capacity workers : Nat) : (start capacity workers).Heeded workers where
  length_eq := List.length_replicate
  stops_eq := by
    have hnone : (List.replicate workers (Consumer.away none)).countP Consumer.hasStopped = 0 :=
      List.countP_eq_zero.mpr fun consumer hconsumer => by rw [List.eq_of_mem_replicate hconsumer]; decide
    exact hnone.symm
  own worker := by
    show 0 = if (List.replicate workers (Consumer.away none))[worker]?.any Consumer.hasStopped then 1 else 0
    rw [List.getElem?_replicate]
    split <;> simp [Consumer.hasStopped]
  early front ticket back h := by cases front <;> cases h

theorem hasStopped_woken (consumer : Consumer) : consumer.woken.hasStopped = consumer.hasStopped := by
  cases consumer <;> rfl

/-- A worker that turns to something else has stopped if it had before, and so have the others. -/
theorem any_hasStopped_set {consumers : List Consumer} {worker : Nat} {old next : Consumer}
    (h : consumers[worker]? = some old) (hsame : next.hasStopped = old.hasStopped) (other : Nat) :
    (consumers.set worker next)[other]?.any Consumer.hasStopped = consumers[other]?.any Consumer.hasStopped := by
  obtain ⟨hlt, -⟩ := List.getElem?_eq_some_iff.mp h
  rw [List.getElem?_set, if_pos hlt]
  split
  · next hother => rw [← hother, h, Option.any_some, Option.any_some, hsame]
  · rfl

/-- A turn that takes nothing and stops nobody. -/
theorem Heeded.of_same (h : s.Heeded workers) (htaken : t.taken = s.taken)
    (hlength : t.consumers.length = s.consumers.length)
    (hstopped : t.consumers.countP Consumer.hasStopped = s.consumers.countP Consumer.hasStopped)
    (hsame : ∀ worker : Nat, t.consumers[worker]?.any Consumer.hasStopped
      = s.consumers[worker]?.any Consumer.hasStopped) : t.Heeded workers where
  length_eq := hlength.trans h.length_eq
  stops_eq := by rw [htaken, hstopped, h.stops_eq]
  own worker := by rw [htaken, hsame, h.own]
  early := by rw [htaken]; exact h.early

theorem Heeded.setConsumer {worker : Nat} {old next : Consumer} (h : s.Heeded workers)
    (hold : s.consumers[worker]? = some old) (hsame : next.hasStopped = old.hasStopped) :
    (s.setConsumer worker next).Heeded workers := by
  refine h.of_same rfl List.length_set ?_ (any_hasStopped_set hold hsame)
  have hstopped := countP_set_add hold Consumer.hasStopped next
  rw [hsame] at hstopped
  exact Nat.add_right_cancel hstopped

/-- A worker that looks has not stopped. -/
theorem Heeded.count_stop_lt (h : s.Heeded workers) {worker : Nat} (hlooking : s.consumers[worker]? = some .looking) :
    (s.taken.map Prod.snd).count .stop < workers := by
  rw [h.stops_eq, ← h.length_eq]
  exact List.countP_lt_length_iff.mpr ⟨.looking, List.mem_of_getElem? hlooking, rfl⟩

/-- A ticket is taken: with a stop the worker has stopped, and with a connection it goes on. -/
theorem Heeded.took (h : s.Heeded workers) {worker : Nat} {ticket : Ticket} {rest : List Ticket}
    (hlooking : s.consumers[worker]? = some .looking) (hwaiting : s.queue.waiting = ticket :: rest) :
    (s.hand worker ticket { s.queue with waiting := rest }).Heeded workers := by
  obtain ⟨hlt, -⟩ := List.getElem?_eq_some_iff.mp hlooking
  refine ⟨List.length_set.trans h.length_eq, ?_, fun other => ?_, fun front last back hsplit => ?_⟩
  · have hstopped := countP_set_add hlooking Consumer.hasStopped (.away (some ticket))
    show ((s.taken ++ [(worker, ticket)]).map Prod.snd).count .stop
      = (s.consumers.set worker (.away (some ticket))).countP Consumer.hasStopped
    rw [List.map_append, List.count_append, h.stops_eq]
    cases ticket with
    | connection => exact hstopped.symm
    | stop => exact hstopped.symm
  -- the worker has just stopped itself if the ticket is a stop, every other one is as before
  · have hown := h.own other
    show (s.taken ++ [(worker, ticket)]).count (other, .stop)
      = if (s.consumers.set worker (.away (some ticket)))[other]?.any Consumer.hasStopped then 1 else 0
    rw [List.count_append, hown, List.getElem?_set]
    by_cases hsame : worker = other
    · rw [if_pos hsame, ← hsame, hlooking, if_pos hlt]
      cases ticket with
      | connection => simp [Consumer.hasStopped]
      | stop => simp [Consumer.hasStopped]
    · rw [if_neg hsame]
      have hother : [(worker, ticket)].count (other, .stop) = 0 := by simp [hsame]
      rw [hother, Nat.add_zero]
  · -- the last ticket is the one that was taken now
    have htaken : (s.taken ++ [(worker, ticket)]).map Prod.snd = front ++ last :: back := hsplit
    rw [List.map_append, List.map_singleton] at htaken
    rcases List.eq_nil_or_concat back with rfl | ⟨back, final, rfl⟩
    · rw [← (List.append_inj' htaken rfl).1]
      exact h.count_stop_lt hlooking
    · rw [List.concat_eq_append, ← List.cons_append, ← List.append_assoc] at htaken
      exact h.early front last back (List.append_inj' htaken rfl).1

/-- Every turn keeps the record, as workers come again only when they have not stopped. -/
theorem Heeded.step (h : s.Heeded workers) (hdoes : s.Does turn t) (hheeds : s.Heeds turn) : t.Heeded workers := by
  cases hdoes with
  | pushed | refused | stopsPushed | unheard => exact h.of_same rfl rfl rfl fun _ => rfl
  | @called worker _ hasleep =>
    have hcalled : (s.setConsumer worker .looking).Heeded workers := h.setConsumer hasleep rfl
    exact hcalled.of_same rfl rfl rfl fun _ => rfl
  | allWoken =>
    have hsame : Consumer.hasStopped ∘ Consumer.woken = Consumer.hasStopped := funext hasStopped_woken
    refine h.of_same rfl (List.length_map _) ?_ fun worker => ?_
    · show (s.consumers.map Consumer.woken).countP Consumer.hasStopped = _
      rw [List.countP_map, hsame]
    · show (s.consumers.map Consumer.woken)[worker]?.any Consumer.hasStopped = _
      simp only [List.getElem?_map, Option.any_map, hasStopped_woken]
  | @came worker last haway =>
    refine h.setConsumer haway ?_
    rcases last with _ | token | _
    · rfl
    · rfl
    -- a worker that has taken its stop does not come back
    · exact absurd haway hheeds
  | took hlooking hwaiting => exact h.took hlooking hwaiting
  | slept hlooking => exact h.setConsumer hlooking rfl
  | stirred hasleep => exact h.setConsumer hasleep rfl

/-- In every run in which stops are heeded, the record of who has stopped is right. -/
theorem Reaches.heeded {capacity : Nat} (h : Reaches Heeds (start capacity workers) s) : s.Heeded workers := by
  induction h with
  | refl => exact heeded_start capacity workers
  | step _ hheeds hstep ih => exact ih.step (step?_eq_some_iff.mp hstep) hheeds

/-! ## On the way to the end -/

/-- Stops for all workers were accepted, behind some tickets and in front of others. -/
structure ShutDown (workers : Nat) (before later : List Ticket) (s : SharedQueue) : Prop where
  accepted_eq : s.accepted = before ++ .replicate workers .stop ++ later
  before_none : .stop ∉ before
  later_none : .stop ∉ later

variable {before later : List Ticket} {capacity : Nat}

/-- Nothing that was accepted behind the stops is taken. -/
theorem ShutDown.taken_prefix (h : s.ShutDown workers before later) (hflows : s.Flows capacity)
    (hheeded : s.Heeded workers) : s.taken.map Prod.snd <+: before ++ .replicate workers .stop := by
  have htaken : s.taken.map Prod.snd <+: s.accepted := ⟨s.queue.waiting, hflows.ordered⟩
  have hstops : before ++ .replicate workers .stop <+: s.accepted := ⟨later, h.accepted_eq.symm⟩
  rcases List.prefix_or_prefix_of_prefix htaken hstops with hprefix | ⟨beyond, hbeyond⟩
  · exact hprefix
  · cases beyond with
    | nil => exact ⟨[], by rw [List.append_nil, ← hbeyond, List.append_nil]⟩
    | cons ticket beyond =>
      -- all stops would be in front of it, and all workers stopped
      have hearly := hheeded.early _ ticket beyond hbeyond.symm
      rw [List.count_append, List.count_replicate_self] at hearly
      omega

/-- The stops that were taken and those that wait are one for each worker. -/
theorem ShutDown.owed (h : s.ShutDown workers before later) (hflows : s.Flows capacity) :
    (s.taken.map Prod.snd).count .stop + s.queue.waiting.count .stop = workers := by
  rw [← List.count_append, hflows.ordered, h.accepted_eq, List.count_append, List.count_append,
    List.count_eq_zero.mpr h.before_none, List.count_eq_zero.mpr h.later_none, List.count_replicate_self]
  omega

/-- While a worker has not stopped, something waits. -/
theorem ShutDown.waiting_ne_nil (h : s.ShutDown workers before later) (hflows : s.Flows capacity)
    (hheeded : s.Heeded workers) {consumer : Consumer} (hmem : consumer ∈ s.consumers)
    (hgoes : consumer.hasStopped = false) : s.queue.waiting ≠ [] := by
  intro hwaiting
  have howed := h.owed hflows
  have hstopped : s.consumers.countP Consumer.hasStopped < s.consumers.length :=
    List.countP_lt_length_iff.mpr ⟨consumer, hmem, hgoes⟩
  rw [hwaiting, hheeded.stops_eq, List.count_nil] at howed
  rw [hheeded.length_eq] at hstopped
  omega

/-- In front of a stop, all tickets that were accepted before the stops have been taken. -/
theorem ShutDown.before_prefix (h : s.ShutDown workers before later) (hflows : s.Flows capacity)
    {front back : List (Nat × Ticket)} {worker : Nat} (htaken : s.taken = front ++ (worker, .stop) :: back) :
    before <+: front.map Prod.snd := by
  have hordered := hflows.ordered
  rw [htaken, List.map_append, List.map_cons, List.append_assoc, h.accepted_eq, List.append_assoc] at hordered
  rcases List.append_eq_append_iff.mp hordered with ⟨between, hbefore, hstop⟩ | ⟨between, hfront, -⟩
  · cases between with
    | nil => exact ⟨[], by rw [List.append_nil, hbefore, List.append_nil]⟩
    | cons ticket between =>
      -- the stop would be one of the tickets in front
      obtain ⟨rfl, -⟩ := List.cons.inj hstop
      exact absurd (hbefore ▸ List.mem_append_cons_self) h.before_none
  · exact ⟨between, hfront.symm⟩

/-- How far the workers are from the end: two turns for each ticket that they have yet to take, and one for each of them
that is idle. -/
def left (before : List Ticket) (s : SharedQueue) : Nat :=
  2 * (before.length + s.consumers.length - s.taken.length) + s.consumers.countP Consumer.isIdle

/-- A worker that begins to look is nearer to the end. -/
theorem left_looking {worker : Nat} {old : Consumer} (hold : s.consumers[worker]? = some old) (hidle : old.isIdle = true) :
    left before (s.setConsumer worker .looking) < left before s := by
  have hcount := countP_set_add hold Consumer.isIdle .looking
  have hlooking : Consumer.looking.isIdle = false := rfl
  rw [hidle, hlooking, Bool.toNat_true, Bool.toNat_false] at hcount
  show 2 * (before.length + (s.consumers.set worker .looking).length - s.taken.length)
    + (s.consumers.set worker .looking).countP Consumer.isIdle < _
  rw [List.length_set, left]
  omega

/-- A worker that is away and has not stopped may come again. -/
theorem isIdle_away {last : Option Ticket} (hgoes : last ≠ some .stop) : (Consumer.away last).isIdle = true := by
  rcases last with _ | token | _
  · rfl
  · rfl
  · exact absurd rfl hgoes

/-- Who takes a ticket is nearer to the end. -/
theorem left_took (h : s.ShutDown workers before later) (hflows : s.Flows capacity) (hheeded : s.Heeded workers)
    {worker : Nat} {ticket : Ticket} {rest : List Ticket} (hlooking : s.consumers[worker]? = some .looking)
    (hwaiting : s.queue.waiting = ticket :: rest) :
    left before (s.hand worker ticket { s.queue with waiting := rest }) < left before s := by
  -- what is taken now is one of the tickets up to the last stop
  have hshut : (s.hand worker ticket { s.queue with waiting := rest }).ShutDown workers before later :=
    ⟨h.accepted_eq, h.before_none, h.later_none⟩
  have hprefix := hshut.taken_prefix (hflows.step (.took hlooking hwaiting)) (hheeded.took hlooking hwaiting)
  have hlength : ((s.taken ++ [(worker, ticket)]).map Prod.snd).length ≤ _ := hprefix.length_le
  have hcount := countP_set_add hlooking Consumer.isIdle (.away (some ticket))
  have hidle := Bool.toNat_le (Consumer.away (some ticket)).isIdle
  have hbusy : Consumer.looking.isIdle.toNat = 0 := rfl
  rw [List.length_map, List.length_append, List.length_append, List.length_singleton, List.length_replicate] at hlength
  show 2 * (before.length + (s.consumers.set worker _).length - (s.taken ++ [_]).length)
    + (s.consumers.set worker _).countP Consumer.isIdle < _
  rw [List.length_set, List.length_append, List.length_singleton, left, hheeded.length_eq]
  omega

/-- All are nearer to the end when sleepers are woken. -/
theorem left_allWoken (hasleep : .asleep ∈ s.consumers) :
    left before s.wakeAll < left before s := by
  -- waking can only take workers off the count, and the sleeper is one it does take off
  have hle : ∀ consumers : List Consumer,
      (consumers.map Consumer.woken).countP Consumer.isIdle ≤ consumers.countP Consumer.isIdle := fun consumers => by
    rw [List.countP_map]
    refine List.countP_mono_left fun consumer _ hidle => ?_
    cases consumer with
    | asleep => rfl
    | away | looking => exact hidle
  obtain ⟨front, back, hsplit⟩ := List.append_of_mem hasleep
  have hfront := hle front
  have hback := hle back
  show 2 * (before.length + (s.consumers.map Consumer.woken).length - s.taken.length)
    + (s.consumers.map Consumer.woken).countP Consumer.isIdle < _
  have hsleeper : Consumer.asleep.isIdle = true := rfl
  have hwoken : Consumer.asleep.woken.isIdle = false := rfl
  rw [List.length_map, left, hsplit, List.map_append, List.map_cons, List.countP_append, List.countP_append,
    List.countP_cons, List.countP_cons, hsleeper, hwoken, if_pos rfl, if_neg Bool.false_ne_true]
  omega

/-- No turn takes the workers further from the end, and each one that moves a worker takes them nearer. -/
theorem Does.left_le (hdoes : s.Does turn t) (hheeds : s.Heeds turn) (h : s.ShutDown workers before later)
    (hflows : s.Flows capacity) (hheeded : s.Heeded workers) :
    t.consumers = s.consumers ∧ left before t = left before s ∨ left before t < left before s := by
  cases hdoes with
  | pushed | refused | stopsPushed | unheard => exact .inl ⟨rfl, rfl⟩
  | called _ hasleep => exact .inr (left_looking hasleep rfl)
  -- a broadcast that wakes nobody changes nothing
  | allWoken =>
    by_cases hasleep : .asleep ∈ s.consumers
    · exact .inr (left_allWoken hasleep)
    · have hsame : s.consumers.map Consumer.woken = s.consumers := by
        refine (List.map_congr_left fun consumer hmem => ?_).trans s.consumers.map_id
        cases consumer with
        | asleep => exact absurd hmem hasleep
        | away | looking => rfl
      refine .inl ⟨hsame, ?_⟩
      show 2 * (before.length + (s.consumers.map Consumer.woken).length - s.taken.length)
        + (s.consumers.map Consumer.woken).countP Consumer.isIdle = _
      rw [hsame, left]
  | came haway => exact .inr (left_looking haway (isIdle_away fun hstop => hheeds (hstop ▸ haway)))
  | took hlooking hwaiting => exact .inr (left_took h hflows hheeded hlooking hwaiting)
  | slept hlooking hwaiting =>
    exact absurd hwaiting (h.waiting_ne_nil hflows hheeded (List.mem_of_getElem? hlooking) rfl)
  | stirred hasleep => exact .inr (left_looking hasleep rfl)

/-! ## No worker waits for ever -/

/-- A turn of a worker that is not asleep, or of a thread that has yet to wake a sleeper. -/
def Turn.isDue : Turn → Bool
  | call (some _) | broadcast | come _ | look _ => true
  | push _ | pushStops _ | call none | stir _ => false

/-- A turn is due that moves a worker. -/
def MayMove (s : SharedQueue) : Prop :=
  ∃ turn t, turn.isDue = true ∧ s.Heeds turn ∧ s.step? turn = some t ∧ t.consumers ≠ s.consumers

/-- A worker that turns to something else has moved. -/
theorem set_ne {consumers : List Consumer} {worker : Nat} {old next : Consumer} (hold : consumers[worker]? = some old)
    (hnext : next ≠ old) : consumers.set worker next ≠ consumers := by
  obtain ⟨hlt, -⟩ := List.getElem?_eq_some_iff.mp hold
  intro hsame
  have hfound := congrArg (·[worker]?) hsame
  rw [List.getElem?_set_self hlt, hold] at hfound
  exact hnext (Option.some.inj hfound)

/-- A worker that looks while something waits may take it. -/
theorem mayMove_of_looking {worker : Nat} {ticket : Ticket} {rest : List Ticket}
    (hlooking : s.consumers[worker]? = some .looking) (hwaiting : s.queue.waiting = ticket :: rest) : s.MayMove :=
  ⟨.look worker, _, rfl, trivial, (Does.took hlooking hwaiting).step?_eq, set_ne hlooking (by simp)⟩

/-- While a worker has not stopped, a turn is due that moves a worker. -/
theorem ShutDown.mayMove (h : s.ShutDown workers before later) (hflows : s.Flows capacity) (hheeded : s.Heeded workers)
    {consumer : Consumer} (hmem : consumer ∈ s.consumers) (hgoes : consumer.hasStopped = false) : s.MayMove := by
  obtain ⟨ticket, rest, hwaiting⟩ := List.exists_cons_of_ne_nil (h.waiting_ne_nil hflows hheeded hmem hgoes)
  obtain ⟨worker, hworker⟩ := List.getElem?_of_mem hmem
  cases consumer with
  | looking => exact mayMove_of_looking hworker hwaiting
  | away last =>
    refine ⟨.come worker, _, rfl, fun hstopped => ?_, (Does.came hworker).step?_eq, set_ne hworker (by simp)⟩
    obtain rfl := Consumer.away.inj (Option.some.inj (hworker.symm.trans hstopped))
    cases hgoes
  | asleep =>
    -- a sleeper is not forgotten while something waits
    rcases hflows.heard hmem with hbroadcasts | hsize
    · refine ⟨.broadcast, _, rfl, trivial, (Does.allWoken hbroadcasts).step?_eq, fun hsame => ?_⟩
      have hwoken : .asleep ∈ s.consumers.map Consumer.woken := by
        rwa [show s.consumers.map Consumer.woken = s.consumers from hsame]
      obtain ⟨other, -, hother⟩ := List.mem_map.mp hwoken
      cases other <;> cases hother
    · rw [Queue.size, hwaiting, List.length_cons] at hsize
      by_cases hlookers : 0 < s.lookers
      · obtain ⟨found, hfound, hlooking⟩ := List.countP_pos_iff.mp hlookers
        obtain rfl : found = .looking := of_decide_eq_true hlooking
        obtain ⟨other, hother⟩ := List.getElem?_of_mem hfound
        exact mayMove_of_looking hother hwaiting
      · have hcalls : 0 < s.calls := by omega
        exact ⟨.call (some worker), _, rfl, trivial, (Does.called hcalls hworker).step?_eq, set_ne hworker (by simp)⟩

/-- When all workers have stopped, none is moved any more. -/
theorem not_mayMove (hall : ∀ consumer ∈ s.consumers, consumer.hasStopped = true) : ¬s.MayMove := by
  rintro ⟨turn, t, hdue, hheeds, hstep, hmoved⟩
  have hstopped : ∀ {worker : Nat} {consumer : Consumer}, s.consumers[worker]? = some consumer →
      consumer.hasStopped = true := fun hconsumer => hall _ (List.mem_of_getElem? hconsumer)
  cases step?_eq_some_iff.mp hstep with
  | pushed | refused | stopsPushed | unheard => exact hmoved rfl
  | called _ hasleep | stirred hasleep => cases hstopped hasleep
  -- with nobody asleep waking all changes no consumer
  | allWoken =>
    refine hmoved ((List.map_congr_left fun consumer hmem => ?_).trans s.consumers.map_id)
    cases consumer with
    | asleep => cases hall _ hmem
    | away | looking => rfl
  | @came worker last haway =>
    rcases last with _ | _ | _
    · cases hstopped haway
    · cases hstopped haway
    · exact hheeds haway
  | took hlooking | slept hlooking => cases hstopped hlooking

/-- A run without end of workers that heed the stops that they take. Whenever a turn is due that moves a worker, some
worker is moved sooner or later. -/
structure Fair (run : Nat → SharedQueue) : Prop where
  turns : ∀ n, ∃ turn, (run n).Heeds turn ∧ (run n).step? turn = some (run (n + 1))
  moves : ∀ n, (run n).MayMove → ∃ m, n ≤ m ∧ (run (m + 1)).consumers ≠ (run m).consumers

variable {run : Nat → SharedQueue}

/-- What a fair run comes to at some time is reached. -/
theorem Fair.reaches (h : Fair run) (n : Nat) : Reaches Heeds (run 0) (run n) := by
  induction n with
  | zero => exact .refl
  | succ n ih =>
    obtain ⟨turn, hheeds, hstep⟩ := h.turns n
    exact .step ih hheeds hstep

/-- A worker has stopped exactly if it has taken a stop, and it takes only one. -/
theorem Heeded.count_eq_one (h : s.Heeded workers) (hall : ∀ consumer ∈ s.consumers, consumer.hasStopped = true)
    {worker : Nat} (hworker : worker < workers) : s.taken.count (worker, .stop) = 1 := by
  have hconsumer := List.getElem?_eq_getElem (h.length_eq.symm ▸ hworker)
  rw [h.own, hconsumer, Option.any_some, if_pos (hall _ (List.getElem_mem _))]

section Ends

variable {first n : Nat}

/-- One turn after the stops were accepted. -/
theorem Fair.left_step (h : Fair run) (hstart : run 0 = start capacity workers)
    (hshut : ∀ n, first ≤ n → ∃ later, (run n).ShutDown workers before later) (hn : first ≤ n) :
    (run (n + 1)).consumers = (run n).consumers ∧ left before (run (n + 1)) = left before (run n)
      ∨ left before (run (n + 1)) < left before (run n) := by
  have hreaches : Reaches Heeds (start capacity workers) (run n) := hstart ▸ h.reaches n
  obtain ⟨later, hlater⟩ := hshut n hn
  obtain ⟨turn, hheeds, hstep⟩ := h.turns n
  exact (step?_eq_some_iff.mp hstep).left_le hheeds hlater hreaches.flows hreaches.heeded

/-- The way that is left does not grow in a fair run. -/
theorem Fair.left_le (h : Fair run) (hstart : run 0 = start capacity workers)
    (hshut : ∀ n, first ≤ n → ∃ later, (run n).ShutDown workers before later) (hn : first ≤ n) (turns : Nat) :
    left before (run (n + turns)) ≤ left before (run n) := by
  -- on the number of turns
  induction turns with
  | zero => exact Nat.le_refl _
  | succ turns ih =>
    rcases h.left_step hstart hshut (Nat.le_add_right_of_le hn) with ⟨-, hsame⟩ | hless
    · exact Nat.le_trans (Nat.le_of_eq hsame) ih
    · exact Nat.le_trans (Nat.le_of_lt hless) ih

/-- While a worker has not stopped, the workers come nearer to the end sooner or later. -/
theorem Fair.exists_left_lt (h : Fair run) (hstart : run 0 = start capacity workers)
    (hshut : ∀ n, first ≤ n → ∃ later, (run n).ShutDown workers before later) (hn : first ≤ n) {consumer : Consumer}
    (hmem : consumer ∈ (run n).consumers) (hgoes : consumer.hasStopped = false) :
    ∃ m, n ≤ m ∧ left before (run m) < left before (run n) := by
  have hreaches : Reaches Heeds (start capacity workers) (run n) := hstart ▸ h.reaches n
  obtain ⟨later, hlater⟩ := hshut n hn
  obtain ⟨m, hm, hmoved⟩ := h.moves n (hlater.mayMove hreaches.flows hreaches.heeded hmem hgoes)
  obtain ⟨turns, rfl⟩ := Nat.exists_eq_add_of_le hm
  have hless : left before (run (n + turns + 1)) < left before (run (n + turns)) :=
    (h.left_step hstart hshut (Nat.le_trans hn hm)).resolve_left fun hsame => hmoved hsame.1
  exact ⟨n + turns + 1, Nat.le_succ_of_le hm, Nat.lt_of_lt_of_le hless (h.left_le hstart hshut hn turns)⟩

/-- Once one stop for each worker was accepted and no other ones, all workers stop. The induction is on how far they are
from the end. -/
theorem Fair.exists_stopped (h : Fair run) (hstart : run 0 = start capacity workers)
    (hshut : ∀ n, first ≤ n → ∃ later, (run n).ShutDown workers before later) (hn : first ≤ n) :
    ∃ m, n ≤ m ∧ ∀ consumer ∈ (run m).consumers, consumer.hasStopped = true := by
  induction hleft : left before (run n) using Nat.strongRecOn generalizing n with
  | ind k ih =>
    by_cases hall : ∀ consumer ∈ (run n).consumers, consumer.hasStopped = true
    · exact ⟨n, Nat.le_refl n, hall⟩
    · push Not at hall
      obtain ⟨consumer, hmem, hgoes⟩ := hall
      obtain ⟨m, hm, hless⟩ := h.exists_left_lt hstart hshut hn hmem (eq_false_of_ne_true hgoes)
      obtain ⟨last, hlast, hstopped⟩ := ih _ (hleft ▸ hless) (Nat.le_trans hn hm) rfl
      exact ⟨last, Nat.le_trans hm hlast, hstopped⟩

end Ends

/-! ## All runs -/

/-- What holds of a queue of some capacity in every run of its threads. -/
structure InOrder (capacity : Nat) (s : SharedQueue) : Prop where
  /-- What was taken and then what waits is what was accepted, in its order. -/
  ordered : s.taken.map Prod.snd ++ s.queue.waiting = s.accepted
  refused_iff : ∀ token e, s.queue.push token = .error e
    ↔ max capacity 1 ≤ s.queue.size ∧ e = .queueFull (max capacity 1)
  unchanged : max capacity 1 ≤ s.queue.size → ∀ token, s.step? (.push token) = some s
  bounded : s.queue.waiting.countP Ticket.isConnection ≤ max capacity 1

/-- What the invariant says of order and capacity. -/
theorem Flows.inOrder (h : s.Flows capacity) : s.InOrder capacity where
  ordered := h.ordered
  refused_iff token e := by
    rw [← h.capacity_eq, Queue.push]
    split
    · next hfull => rw [Except.error.injEq, eq_comm, and_iff_right hfull]
    · next hroom => exact iff_of_false (by simp) fun hfull => hroom hfull.1
  unchanged hfull token := (Does.refused (h.capacity_eq ▸ hfull)).step?_eq
  bounded := h.bounded

/-- How it stands with the workers of a queue when one stop for each of them was accepted behind some tickets. -/
structure WindsDown (workers : Nat) (before : List Ticket) (s : SharedQueue) : Prop where
  /-- Before a worker takes a stop, all tickets in front of the stops have been taken. -/
  drained : ∀ front worker back, s.taken = front ++ (worker, .stop) :: back → before <+: front.map Prod.snd
  once : ∀ worker, s.taken.count (worker, .stop) ≤ 1
  /-- The stops that were not taken yet wait. -/
  owed : (s.taken.map Prod.snd).count .stop + s.queue.waiting.count .stop = workers
  mayMove : ∀ consumer ∈ s.consumers, consumer.hasStopped = false → s.MayMove

/-- What the invariants say of a queue that is shut down. -/
theorem ShutDown.windsDown (h : s.ShutDown workers before later) (hflows : s.Flows capacity)
    (hheeded : s.Heeded workers) : s.WindsDown workers before where
  drained _ _ _ htaken := h.before_prefix hflows htaken
  once worker := by
    rw [hheeded.own]
    split <;> omega
  owed := h.owed hflows
  mayMove _ hmem hgoes := h.mayMove hflows hheeded hmem hgoes

/-- **The queue of ready connections.** In every run, what was taken and then what waits is what was accepted, in its
order; a connection is refused exactly when the queue is full, and then nothing changes; and no more connections wait
than the capacity. If workers stop at the first stop that they take, and one stop for each of them is accepted, then all
that was accepted before is taken before any of them stops, none of them takes two stops, and sooner or later each of them
has taken one. -/
theorem tickets_in_order (capacity workers : Nat) :
    (∀ s, Reaches (fun _ _ => True) (start capacity workers) s → s.InOrder capacity)
      ∧ (∀ s before later, Reaches Heeds (start capacity workers) s → s.ShutDown workers before later →
        s.WindsDown workers before)
      ∧ ∀ run first before, Fair run → run 0 = start capacity workers →
        (∀ n, first ≤ n → ∃ later, (run n).ShutDown workers before later) →
          ∃ n, first ≤ n ∧ ∀ worker < workers, (run n).taken.count (worker, .stop) = 1 := by
  refine ⟨fun s hreaches => hreaches.flows.inOrder,
    fun s before later hreaches hshut => hshut.windsDown hreaches.flows hreaches.heeded,
    fun run first before hfair hstart hshut => ?_⟩
  obtain ⟨n, hn, hstopped⟩ := hfair.exists_stopped hstart hshut (Nat.le_refl first)
  have hreaches := hstart ▸ hfair.reaches n
  exact ⟨n, hn, fun worker hworker => hreaches.heeded.count_eq_one hstopped hworker⟩

/-! ## Two workers -/

/-- Turns at a queue for one connection. One worker falls asleep; a connection and two stops are accepted although there
is no more room, the sleeper is called, the workers take what there is, and another connection is accepted. -/
def closingTurns : List Turn :=
  [.come 1, .look 1, .push 5, .pushStops 2, .call (some 1), .look 1, .come 0, .look 0, .come 1, .look 1, .push 7]

/-- The run of these turns. Behind them connections are refused. -/
def closingRun : Nat → SharedQueue
  | 0 => start 1 2
  | n + 1 => ((closingRun n).step? (closingTurns.getD n (.push 7))).getD (closingRun n)

/-- Behind the eleven turns there are only pushes. -/
theorem closingTurns_getD (n : Nat) : closingTurns.getD (11 + n) (.push 7) = .push 7 := by
  rw [List.getD_eq_getElem?_getD, List.getElem?_eq_none (Nat.le_add_right 11 n)]
  rfl

/-- A push on a full queue changes nothing, so that the run stays where it is. -/
theorem closingRun_eq (n : Nat) : closingRun (11 + n) = closingRun 11 := by
  induction n with
  | zero => rfl
  | succ n ih =>
    rw [← Nat.add_assoc, closingRun, closingTurns_getD, ih]
    rfl

theorem closingRun_fair : Fair closingRun where
  turns n := by
    have hturn : (closingRun n).Heeds (closingTurns.getD n (.push 7))
        ∧ ((closingRun n).step? (closingTurns.getD n (.push 7))).isSome := by
      -- the turns that are written out are checked one by one, the later ones are all the same
      rcases Nat.lt_or_ge n 11 with hn | hn
      · revert n
        decide +kernel
      · obtain ⟨k, rfl⟩ := Nat.exists_eq_add_of_le hn
        rw [closingRun_eq, closingTurns_getD]
        decide +kernel
    obtain ⟨hheeds, hsome⟩ := hturn
    obtain ⟨t, hstep⟩ := Option.isSome_iff_exists.mp hsome
    refine ⟨_, hheeds, ?_⟩
    rw [closingRun, hstep, Option.getD_some]
  moves n hmoves := by
    rcases Nat.lt_or_ge n 10 with hn | hn
    · exact ⟨9, Nat.le_of_lt_succ hn, by decide +kernel⟩
    · -- both workers have stopped
      refine absurd hmoves (not_mayMove ?_)
      rcases Nat.lt_or_ge n 11 with hlt | hge
      · obtain rfl : n = 10 := by omega
        decide +kernel
      · obtain ⟨k, rfl⟩ := Nat.exists_eq_add_of_le hge
        rw [closingRun_eq]
        decide +kernel

theorem closingRun_shutDown {n : Nat} (hn : 4 ≤ n) :
    ∃ later, (closingRun n).ShutDown 2 [.connection 5] later := by
  rcases Nat.lt_or_ge n 11 with hlt | hge
  · have haccepted : ∀ n < 11, 4 ≤ n → (closingRun n).accepted = [.connection 5, .stop, .stop] := by decide +kernel
    exact ⟨[], haccepted n hlt hn, by decide, List.not_mem_nil⟩
  · obtain ⟨k, rfl⟩ := Nat.exists_eq_add_of_le hge
    rw [closingRun_eq]
    exact ⟨[.connection 7], by decide +kernel, by decide, by decide⟩

/-- Both workers take one stop, and what was accepted before was taken before. -/
theorem closingRun_in_order :
    Fair closingRun ∧ (∀ n, 4 ≤ n → (closingRun n).WindsDown 2 [.connection 5])
      ∧ ∃ n, 4 ≤ n ∧ ∀ worker < 2, (closingRun n).taken.count (worker, .stop) = 1 := by
  obtain ⟨-, hwinds, hends⟩ := tickets_in_order 1 2
  refine ⟨closingRun_fair, fun n hn => ?_, ?_⟩
  · obtain ⟨later, hshut⟩ := closingRun_shutDown hn
    exact hwinds (closingRun n) _ later (closingRun_fair.reaches n) hshut
  · exact hends closingRun 4 _ closingRun_fair rfl fun n hn => closingRun_shutDown hn

end SharedQueue

end EventBus
