import EventBus.Proofs.Reactor.Feed
import EventBus.Reactor.Echo

/-!
# Connections are served by one worker at a time

No lock protects a connection while it is served; that its token is in one place at a time is what does.

* `Place`, `At`: where a connection can be.
* `Exclusive`: each open connection is in exactly one place and stays open until the service is told otherwise,
  a full queue costs it nothing, and its chunks are a first part of what its peer sent.
* `Ran.exclusive`: a reactor is like that after any moves of its threads and its surroundings.
-/

namespace EventBus

/-- The connection that an event is about. -/
def PollEvent.token? : PollEvent → Option Token
  | .knock => none
  | .ready token => some token

/-- The connections that the poll thread has in hand: it is about to arm them, or to queue them. -/
def PollThread.inHand : PollThread → List Token
  | looping | waiting | stopped => []
  | handling events | accepting events => events.filterMap PollEvent.token?
  | registering token events | rejected token events => token :: events.filterMap PollEvent.token?

/-- A connection is among those that events are about as often as an event says that it is ready. -/
theorem count_filterMap_token? (token : Token) (events : List PollEvent) :
    (events.filterMap PollEvent.token?).count token = events.count (.ready token) := by
  induction events with
  | nil => rfl
  | cons event events ih =>
    cases event with
    | knock => rw [List.filterMap_cons_none rfl, List.count_cons_of_ne (by simp), ih]
    | ready t =>
      rw [List.filterMap_cons_some (show (PollEvent.ready t).token? = some t from rfl), List.count_cons, ih,
        Reactor.count_ready_cons]
      simp only [beq_iff_eq]

/-- How often the poll thread counts a connection is how often it has it in hand. -/
theorem PollThread.count_inHand (token : Token) (poll : PollThread) : poll.inHand.count token = poll.count token := by
  cases poll with
  | looping | waiting | stopped => rfl
  | handling events | accepting events => exact count_filterMap_token? token events
  | registering t events | rejected t events =>
    unfold inHand count
    rw [List.count_cons, count_filterMap_token?, Nat.add_comm]
    simp only [beq_iff_eq]

namespace Reactor

variable {τ : Type} {service : Service τ} {stir : τ → τ → Prop} {config : Config} {initial : τ}
  {r r' : Reactor τ} {moves : List Move} {token : Token}

/-! ## Places -/

/-- Where a connection can be. -/
inductive Place where
  | armed
  | pollThread
  | queue
  | worker (i : Nat)

/-- A connection is in this place. -/
def At (r : Reactor τ) (token : Token) : Place → Prop
  | .armed => (r.connection? token).any (·.armed) = true
  | .pollThread => token ∈ r.poll.inHand
  | .queue => Ticket.connection token ∈ r.queue.waiting
  | .worker i => ∃ worker, r.workers[i]? = some worker ∧ worker.token? = some token

/-- How often a connection is counted in a place; workers are counted together. -/
def share (r : Reactor τ) (token : Token) : Place → Nat
  | .armed => r.armedCount token
  | .pollThread => r.poll.count token
  | .queue => r.queueCount token
  | .worker _ => r.workerCount token

/-- A connection is counted for the workers if one of them has it in hand. -/
theorem workerCount_pos_iff : 0 < r.workerCount token ↔ ∃ i, r.At token (.worker i) := by
  unfold workerCount
  rw [Array.countP_pos_iff]
  constructor
  · rintro ⟨worker, hmem, hholds⟩
    obtain ⟨i, hi⟩ := Array.mem_iff_getElem?.mp hmem
    exact ⟨i, worker, hi, beq_iff_eq.mp hholds⟩
  · rintro ⟨i, worker, hworker, htoken⟩
    exact ⟨worker, Array.mem_of_getElem? hworker, beq_iff_eq.mpr htoken⟩

/-- A place that has a connection has a share in the count. -/
theorem share_pos {place : Place} (h : r.At token place) : 0 < r.share token place := by
  cases place with
  | armed =>
    have harmed : r.armedCount token = 1 := if_pos h
    exact Nat.lt_of_lt_of_eq Nat.one_pos harmed.symm
  | pollThread =>
    show 0 < r.poll.count token
    rw [← PollThread.count_inHand]
    exact List.count_pos_iff.mpr h
  | queue => exact List.count_pos_iff.mpr h
  | worker i => exact workerCount_pos_iff.mpr ⟨i, h⟩

/-- The count is the sum over the places, so none of them exceeds it. -/
theorem share_le_places (r : Reactor τ) (token : Token) (place : Place) :
    r.share token place ≤ r.places token := by
  unfold share places
  cases place <;> dsimp only <;> omega

theorem exists_at_of_places_pos (h : 0 < r.places token) : ∃ place, r.At token place := by
  -- the sum is not zero, so one of its parts is not
  by_cases hworker : 0 < r.workerCount token
  · obtain ⟨i, hi⟩ := workerCount_pos_iff.mp hworker
    exact ⟨.worker i, hi⟩
  by_cases hqueue : 0 < r.queueCount token
  · exact ⟨.queue, List.count_pos_iff.mp hqueue⟩
  by_cases hpoll : 0 < r.poll.count token
  · rw [← PollThread.count_inHand] at hpoll
    exact ⟨.pollThread, List.count_pos_iff.mp hpoll⟩
  refine ⟨.armed, ?_⟩
  have harmed : 0 < r.armedCount token := by
    unfold places at h
    omega
  unfold armedCount at harmed
  split at harmed
  · assumption
  · omega

/-- A connection that is counted once is not in two places. -/
theorem eq_of_at (hone : r.places token ≤ 1) {place place' : Place} (h : r.At token place)
    (h' : r.At token place') : place = place' := by
  have hshare := share_pos h
  have hshare' := share_pos h'
  unfold places at hone
  unfold share at hshare hshare'
  match place, place' with
  | .armed, .armed | .pollThread, .pollThread | .queue, .queue => rfl
  | .worker i, .worker j =>
    obtain ⟨worker, hi, htoken⟩ := h
    obtain ⟨other, hj, htoken'⟩ := h'
    rw [eq_of_workerCount_le_one (by omega) hi hj htoken htoken']
  | .armed, .pollThread | .armed, .queue | .armed, .worker i | .pollThread, .armed | .pollThread, .queue
  | .pollThread, .worker i | .queue, .armed | .queue, .pollThread | .queue, .worker i | .worker i, .armed
  | .worker i, .pollThread | .worker i, .queue =>
    -- two shares of one
    dsimp only at hshare hshare'
    omega

/-! ## Exclusive custody -/

/-- Nobody but the one who has a connection serves it, and no connection is lost. -/
structure Exclusive (service : Service τ) (moves : List Move) (r : Reactor τ) : Prop where
  place : ∀ token, (r.connection? token).isSome → ∃! place, r.At token place
  /-- While there are threads, only open connections are in any place. -/
  isOpen : r.lifecycle.hasThreads → ∀ token place, r.At token place → (r.connection? token).isSome
  queuedOnce : r.lifecycle.hasThreads → ∀ token, r.queue.waiting.count (.connection token) ≤ 1
  heldOnce : r.lifecycle.hasThreads → ∀ token, r.poll.inHand.count token ≤ 1
  servedOnce : ∀ token i j, r.At token (.worker i) → r.At token (.worker j) → i = j
  /-- A connection stays open until the service is told of its end. -/
  kept : ∀ move r', r.step? service move = some r' → ∀ token, (r.connection? token).isSome →
    (r'.connection? token).isSome ∨ r'.callbacks = .closed token :: r.callbacks
  /-- A connection that a full queue refuses stays with the poll thread. -/
  refused : ∀ token events, r.poll = .handling (.ready token :: events) → r.queue.capacity ≤ r.queue.size →
    ∃ r', r.step? service .handle = some r' ∧ r'.poll = .rejected token events ∧ r'.At token .pollThread
      ∧ (r'.connection? token).isSome
  /-- The poll thread arms it again, or closes it if that is reported to fail. -/
  rearmed : ∀ token events, r.poll = .rejected token events → ∀ ok, ∃ r',
    r.step? service (.rearmRejected ok) = some r'
      ∧ if ok then r'.At token .armed else r'.connection? token = none
  peer : ∀ token conn, r.connection? token = some conn → conn.socket = token.toNat - 1
  /-- The chunks of a connection are a first part of what its peer sent. -/
  fed : ∀ token, (r.chunks token).flatten <+: sent (token.toNat - 1) moves

/-- An open connection is in exactly one place, because it is counted once. -/
theorem Custody.existsUnique_at (h : Custody r) (hopen : (r.connection? token).isSome) :
    ∃! place, r.At token place := by
  -- with threads by the invariant of their moves, without by that of the shutdown
  have hone : r.places token = 1 := by
    cases hthreads : r.lifecycle.hasThreads with
    | false => exact (h.settled hthreads).2 token hopen
    | true =>
      rw [h.served hthreads, openCount, if_pos hopen]
  obtain ⟨place, hplace⟩ := exists_at_of_places_pos (Nat.lt_of_lt_of_eq Nat.one_pos hone.symm)
  exact ⟨place, hplace, fun other hother => eq_of_at (Nat.le_of_eq hone) hother hplace⟩

/-- While there are threads, only open connections are anywhere. -/
theorem Custody.isSome_of_at (h : Custody r) (hthreads : r.lifecycle.hasThreads = true) {place : Place}
    (hplace : r.At token place) : (r.connection? token).isSome := by
  have hpos := Nat.lt_of_lt_of_le (share_pos hplace) (share_le_places r token place)
  rw [h.served hthreads, openCount] at hpos
  split at hpos
  · assumption
  · omega

/-- While there are threads, no connection is in two places. -/
theorem Custody.places_le_one (h : Custody r) (hthreads : r.lifecycle.hasThreads = true) (token : Token) :
    r.places token ≤ 1 := by
  rw [h.served hthreads]
  exact openCount_le_one r token

/-- Workers that have stopped have no connection. -/
theorem Custody.eq_of_at_worker (h : Custody r) {i j : Nat} (hi : r.At token (.worker i))
    (hj : r.At token (.worker j)) : i = j := by
  obtain ⟨worker, hworker, htoken⟩ := hi
  have hstopped : worker.hasStopped = false := by
    cases worker with
    | stopped => cases htoken
    | _ => rfl
  have hone := h.places_le_one (h.hasThreads_of_worker hworker hstopped) token
  exact Place.worker.inj (eq_of_at hone ⟨worker, hworker, htoken⟩ hj)

/-- What the poll thread has in hand is open. -/
theorem Custody.isSome_of_mem_inHand (h : Custody r) (hmem : token ∈ r.poll.inHand) :
    (r.connection? token).isSome := by
  have hpoll : r.poll ≠ .stopped := by
    intro hstopped
    rw [hstopped] at hmem
    cases hmem
  have hat : r.At token .pollThread := hmem
  exact h.isSome_of_at (h.hasThreads_of_poll hpoll) hat

/-- A connection is open until the service is told of its end. -/
theorem Tells.isSome_or_closed (h : Tells service r r') (hopen : (r.connection? token).isSome) :
    (r'.connection? token).isSome ∨ r'.callbacks = .closed token :: r.callbacks := by
  cases h with
  | nothing hstate hcallbacks hconn hnext hgrown hmore hserving => exact .inl (by rw [hconn, hopen])
  | opened hbacklog hstate hcallbacks hconn hnext hgrown hsockets hserving =>
    exact .inl (by rw [hconn, hopen, Bool.true_or])
  | received t inbox chunk answers hstate hcallbacks hconn hnext hbacklog hsockets hserving =>
    exact .inl (by rw [hconn, hopen])
  | turned worker t routine hworker hstate hcallbacks hconn hnext hbacklog hsockets hserving =>
    exact .inl (by rw [hconn, hopen])
  | closed t conn hbefore hstate hcallbacks hconn hnext hbacklog hsockets hserving =>
    by_cases hsame : token = t
    · exact .inr (hsame ▸ hcallbacks)
    · exact .inl (by rw [hconn, if_neg hsame, hopen])

/-- With a full queue the poll thread keeps the connection in hand, to arm it again. -/
theorem handle_of_full {events : List PollEvent} (hpoll : r.poll = .handling (.ready token :: events))
    (hfull : r.queue.capacity ≤ r.queue.size) :
    r.step? service .handle = some { r with poll := .rejected token events } := by
  have hpush : r.queue.push token = .error (.queueFull r.queue.capacity) := if_pos hfull
  show r.pollStep? service .handle = _
  unfold pollStep?
  simp only [hpoll, hpush]

/-- A connection that the queue has rejected is armed again. Where arming fails it is closed. -/
theorem step?_rearmRejected {events : List PollEvent} (hpoll : r.poll = .rejected token events) (ok : Bool) :
    r.step? service (.rearmRejected ok) = some { r.handBack service token ok with poll := .handling events } := by
  show r.pollStep? service (.rearmRejected ok) = _
  unfold pollStep?
  simp only [hpoll]
  rfl

/-- Arming an open connection has an effect, and tearing one down removes it. -/
theorem armed_or_none_handBack (service : Service τ) (hopen : (r.connection? token).isSome) (ok : Bool) :
    if ok then ((r.handBack service token ok).connection? token).any (·.armed) = true
    else (r.handBack service token ok).connection? token = none := by
  cases ok with
  | true =>
    obtain ⟨conn, hconn⟩ := Option.isSome_iff_exists.mp hopen
    show ((r.arm token).connection? token).any (·.armed) = true
    rw [arm, connection?_modifyConnection, if_pos rfl, hconn]
    rfl
  | false =>
    show (r.tearDown service token).connection? token = none
    rw [connection?_tearDown, if_pos rfl]

/-- A reactor is served exclusively after any moves, as long as there were fewer than `2 ^ 64` peers. -/
theorem Ran.exclusive (h : Ran service stir config initial moves r) (hfew : r.sockets.size < UInt64.size) :
    Exclusive service moves r := by
  obtain ⟨hcustody, -⟩ := h.reachable.custody hfew
  have hfed := h.fed hfew
  have hone := fun hthreads token => hcustody.places_le_one hthreads token
  -- each part is the count of places, read for one of them
  constructor
  case place => exact fun token hopen => hcustody.existsUnique_at hopen
  case isOpen => exact fun hthreads token place hplace => hcustody.isSome_of_at hthreads hplace
  case queuedOnce =>
    intro hthreads token
    exact Nat.le_trans (share_le_places r token .queue) (hone hthreads token)
  case heldOnce =>
    intro hthreads token
    rw [PollThread.count_inHand]
    exact Nat.le_trans (share_le_places r token .pollThread) (hone hthreads token)
  case servedOnce => exact fun token i j => hcustody.eq_of_at_worker
  case kept => exact fun move r' hstep token hopen => (step?_tells hstep).isSome_or_closed hopen
  case refused =>
    intro token events hpoll hfull
    have hmem : token ∈ r.poll.inHand := by
      rw [hpoll]
      exact List.mem_cons_self
    exact ⟨_, handle_of_full hpoll hfull, rfl, List.mem_cons_self, hcustody.isSome_of_mem_inHand hmem⟩
  case rearmed =>
    intro token events hpoll ok
    have hmem : token ∈ r.poll.inHand := by
      rw [hpoll]
      exact List.mem_cons_self
    exact ⟨_, step?_rearmRejected hpoll ok, armed_or_none_handBack service (hcustody.isSome_of_mem_inHand hmem) ok⟩
  case peer =>
    intro token conn hconn
    have hpeer := hfed.peers token conn hconn
    omega
  case fed => exact hfed.flatten_chunks_prefix

/-! ## A run -/

/-- Two peers of an echo service with two workers and room for one connection in its queue. Both become ready at
once, so the second one finds the queue full and is armed again; it is then asked to be closed, and is with the
second worker while the first worker has read two of three bytes. -/
def crowdedMoves : List Move :=
  [.dial, .dial, .look, .wait [.knock], .handle, .accept, .register true, .accept, .register true, .acceptDone, .handle,
    .sends 0 [1, 2, 3], .sends 1 [4], .look, .wait [.ready 1, .ready 2], .handle, .handle, .pop 0, .rearmRejected true,
    .handle, .check 0, .read 0 (.chunk 2) [], .serve 0, .disconnect 2, .look, .wait [.ready 2], .handle, .pop 1, .check 1]

/-- Two peers, two workers and a queue of one: the bound is met, and each connection is with a worker of its own. -/
theorem crowded_exclusive :
    ∃ r, Ran (Echo.service false .zero) (fun _ _ => False) { workers := 2, queueCapacity := 1 } [] crowdedMoves r
      ∧ r.sockets.size < UInt64.size ∧ r.At 1 (.worker 0) ∧ r.At 2 (.worker 1) ∧ r.chunks 1 = [[1, 2]]
      ∧ sent 0 crowdedMoves = [1, 2, 3] ∧ Exclusive (Echo.service false .zero) crowdedMoves r := by
  have hrun : ((Reactor.start { workers := 2, queueCapacity := 1 } []).moves? (Echo.service false .zero)
      crowdedMoves).any (fun r => r.sockets.size < UInt64.size && r.workers[0]?.bind Worker.token? = some 1
        && r.workers[1]?.bind Worker.token? = some 2 && r.chunks 1 = [[1, 2]]) = true := by
    decide +kernel
  rw [Option.any_eq_true] at hrun
  obtain ⟨r, hmoves, hholds⟩ := hrun
  simp only [Bool.and_eq_true, decide_eq_true_eq] at hholds
  obtain ⟨⟨⟨hfew, hfirst⟩, hsecond⟩, hchunks⟩ := hholds
  have hran : Ran (Echo.service false .zero) (fun _ _ => False) { workers := 2, queueCapacity := 1 } [] crowdedMoves r :=
    Ran.start.of_moves? hmoves
  exact ⟨r, hran, hfew, Option.bind_eq_some_iff.mp hfirst, Option.bind_eq_some_iff.mp hsecond, hchunks, by decide,
    hran.exclusive hfew⟩

end Reactor

end EventBus
