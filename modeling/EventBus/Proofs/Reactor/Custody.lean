import EventBus.Proofs.Reactor.Places

/-!
# Who has a connection

Every open connection is in exactly one place: armed, with the poll thread, in the queue, or with one worker.

* `Custody` is the invariant: as long as there are threads, a token is in one place if its connection is open,
  and in none otherwise. When the threads have stopped, nobody has a token in hand any more.
* `Custody.step`: every step keeps it, whatever the service does.
-/

namespace EventBus

/-- The threads are joined when the reactor turns to closing. -/
def Lifecycle.hasThreads : Lifecycle → Bool
  | running | cancelled | joining => true
  | closing | finished => false

namespace Reactor

variable {τ : Type}

/-- Who has the connections of a reactor. -/
structure Custody (r : Reactor τ) : Prop where
  /-- While there are threads, each open connection is in one place, and any other one in none. -/
  served : r.lifecycle.hasThreads → ∀ token, r.places token = r.openCount token
  /-- Later no thread is left, and each open connection is still in one place. -/
  settled : r.lifecycle.hasThreads = false →
    r.threadsLeft = false ∧ ∀ token, (r.connection? token).isSome → r.places token = 1

variable {r r' kept : Reactor τ} {token other : Token} {service : Service τ} {move : Move}

/-- While there are threads, this is all that is asked. -/
theorem Custody.of_served (hthreads : r.lifecycle.hasThreads = true)
    (h : ∀ token, r.places token = r.openCount token) : Custody r :=
  ⟨fun _ => h, fun hnone => absurd (hthreads.symm.trans hnone) Bool.noConfusion⟩

/-- Afterwards nobody is left who could have a connection in hand. -/
theorem Custody.of_settled (hthreads : r.lifecycle.hasThreads = false) (hleft : r.threadsLeft = false)
    (h : ∀ token, (r.connection? token).isSome → r.places token = 1) : Custody r :=
  ⟨fun hsome => absurd (hsome.symm.trans hthreads) Bool.noConfusion, fun _ => ⟨hleft, h⟩⟩

theorem Custody.of_same (h : Custody r) (hsame : SameCustody r kept) : Custody kept := by
  cases hthreads : r.lifecycle.hasThreads with
  | true =>
    refine .of_served (hsame.lifecycle ▸ hthreads) fun token => ?_
    rw [hsame.places, hsame.openCount]
    exact h.served hthreads token
  | false =>
    obtain ⟨hleft, hplaces⟩ := h.settled hthreads
    refine .of_settled (hsame.lifecycle ▸ hthreads) ?_ fun token hopen => ?_
    · rw [threadsLeft, hsame.poll, hsame.workers]
      exact hleft
    · rw [hsame.places]
      exact hplaces token (hsame.opened token ▸ hopen)

/-! ## Steps of the poll thread -/

/-- While the poll thread has not stopped, there are threads. -/
theorem Custody.hasThreads_of_poll (h : Custody r) (hpoll : r.poll ≠ .stopped) :
    r.lifecycle.hasThreads = true := by
  cases hthreads : r.lifecycle.hasThreads with
  | true => rfl
  | false =>
    have hleft := (h.settled hthreads).1
    rw [threadsLeft, Bool.or_eq_false_iff, bne_eq_false_iff_eq] at hleft
    exact absurd hleft.1 hpoll

/-- A step of the poll thread keeps custody if it only moves connections on, opens or closes them. -/
theorem Custody.of_poll {now : PollThread} (h : Custody r) (hpoll : r.poll = now) (hgoes : now ≠ .stopped)
    (hlife : r'.lifecycle = r.lifecycle)
    (hmoved : ∀ token, r.armedCount token + now.count token + r.queueCount token + r.workerCount token
      = r.openCount token → r'.places token = r'.openCount token) :
    Custody r' := by
  have hthreads := h.hasThreads_of_poll (hpoll ▸ hgoes)
  refine .of_served (hlife ▸ hthreads) fun token => hmoved token ?_
  rw [← hpoll]
  exact h.served hthreads token

/-- The poll thread hands a connection back that it had in hand. -/
theorem Custody.of_poll_handBack {now next : PollThread} (h : Custody r) (hpoll : r.poll = now)
    (hgoes : now ≠ .stopped) (ok : Bool)
    (hcount : ∀ other, now.count other = (if token = other then 1 else 0) + next.count other) :
    Custody { r.handBack service token ok with poll := next } := by
  obtain ⟨hqueue, hworkers, -, hlife⟩ := handBack_frame service token ok r
  refine h.of_poll hpoll hgoes hlife fun other hplaces => ?_
  rw [hcount] at hplaces
  show (r.handBack service token ok).armedCount other + next.count other
    + (r.handBack service token ok).queueCount other + (r.handBack service token ok).workerCount other
    = (r.handBack service token ok).openCount other
  rw [queueCount, workerCount, hqueue, hworkers, Nat.add_assoc, Nat.add_assoc]
  refine armedCount_handBack ?_
  rw [← hplaces]
  simp only [queueCount, workerCount, Nat.add_assoc]

/-- The poll thread passes a connection on: from the armed ones to its hand, and from there to the queue or back. -/
theorem Custody.pollSteps (h : Custody r) (hfresh : r.backlog ≠ [] → r.connection? r.nextToken = none)
    (hsteps : PollSteps service r move r') : Custody r' := by
  cases hsteps with
  | look hpoll =>
    refine h.of_poll hpoll (by simp) rfl fun token hplaces => ?_
    show r.armedCount token + (if r.lifecycle = .running then PollThread.waiting else .stopped).count token
      + r.queueCount token + r.workerCount token = r.openCount token
    split
    · exact hplaces
    · exact hplaces
  | @wait events hpoll hfew hcan hnodup =>
    -- fetched connections were armed, and are not any more
    refine h.of_poll hpoll (by simp) (by rw [fetch_eq]) fun token hplaces => ?_
    have hmoved := armedCount_fetch hcan hnodup token
    have hopen := openCount_fetch events r token
    rw [fetch_eq] at hmoved hopen ⊢
    show armedCount { r with connections := _ } token + events.count (.ready token) + r.queueCount token
      + r.workerCount token = openCount { r with connections := _ } token
    rw [hmoved, hopen]
    exact hplaces
  | waitFails hpoll => exact h.of_poll hpoll (by simp) rfl fun token hplaces => hplaces
  | handled hpoll => exact h.of_poll hpoll (by simp) rfl fun token hplaces => hplaces
  | @knocked events hpoll =>
    refine h.of_poll hpoll (by simp) rfl fun token hplaces => ?_
    show r.armedCount token + events.count (.ready token) + r.queueCount token + r.workerCount token = _
    rw [PollThread.count, List.count_cons_of_ne (by simp)] at hplaces
    exact hplaces
  | @queued t events queue hpoll hpush =>
    obtain ⟨-, rfl⟩ := Queue.push_eq_ok_iff.mp hpush
    refine h.of_poll hpoll (by simp) rfl fun token hplaces => ?_
    rw [PollThread.count, count_ready_cons, queueCount] at hplaces
    show r.armedCount token + events.count (.ready token)
      + (r.queue.waiting ++ [Ticket.connection t]).count (.connection token) + r.workerCount token
      = r.openCount token
    rw [List.count_append, count_connection_singleton]
    omega
  | @rejected t events error hpoll hpush =>
    refine h.of_poll hpoll (by simp) rfl fun token hplaces => ?_
    rw [PollThread.count, count_ready_cons] at hplaces
    show r.armedCount token + ((if t = token then 1 else 0) + events.count (.ready token))
      + r.queueCount token + r.workerCount token = r.openCount token
    rw [Nat.add_comm (if t = token then 1 else 0)]
    exact hplaces
  | @accept events socket backlog hpoll hbacklog =>
    refine h.of_poll hpoll (by simp) rfl fun token hplaces => ?_
    show (r.enroll service socket backlog).armedCount token
      + ((if r.nextToken = token then 1 else 0) + events.count (.ready token))
      + r.queueCount token + r.workerCount token = (r.enroll service socket backlog).openCount token
    -- a token that is not fresh would stand for two connections here
    rw [armedCount_enroll, openCount_enroll (hfresh (by rw [hbacklog]; simp)), ← hplaces, PollThread.count]
    omega
  | acceptDone hpoll => exact h.of_poll hpoll (by simp) rfl fun token hplaces => hplaces
  | register ok hpoll => exact h.of_poll_handBack hpoll (by simp) ok fun _ => rfl
  | rearmRejected ok hpoll => exact h.of_poll_handBack hpoll (by simp) ok fun _ => rfl

/-! ## Steps of a worker -/

/-- While a worker has not stopped, there are threads. -/
theorem Custody.hasThreads_of_worker (h : Custody r) {worker : Nat} {now : Worker τ}
    (hworker : r.workers[worker]? = some now) (hstopped : now.hasStopped = false) :
    r.lifecycle.hasThreads = true := by
  cases hthreads : r.lifecycle.hasThreads with
  | true => rfl
  | false =>
    have hleft := (h.settled hthreads).1
    rw [threadsLeft, Bool.or_eq_false_iff, Array.any_eq_false'] at hleft
    have hnow := hleft.2 now (Array.mem_of_getElem? hworker)
    rw [hstopped] at hnow
    exact absurd rfl hnow

/-- A step of a worker keeps custody if it only moves connections on, or closes them. -/
theorem Custody.of_worker {worker : Nat} {now : Worker τ} (h : Custody r)
    (hworker : r.workers[worker]? = some now) (hstopped : now.hasStopped = false)
    (hlife : r'.lifecycle = r.lifecycle)
    (hmoved : ∀ token, r.places token = r.openCount token → r'.places token = r'.openCount token) :
    Custody r' := by
  have hthreads := h.hasThreads_of_worker hworker hstopped
  exact .of_served (hlife ▸ hthreads) fun token => hmoved token (h.served hthreads token)

/-- A worker goes on with the connection that it has. -/
theorem Custody.of_worker_keeps {worker : Nat} {now next : Worker τ} (h : Custody r)
    (hworker : r.workers[worker]? = some now) (hstopped : now.hasStopped = false)
    (htoken : next.token? = now.token?) (hsame : SameCustody r kept) : Custody (kept.setWorker worker next) := by
  refine h.of_worker hworker hstopped hsame.lifecycle fun token hplaces => ?_
  have hcount := workerCount_setWorker (r := kept) (hsame.workers ▸ hworker) next token
  rw [Worker.holds, Worker.holds, htoken, Nat.add_right_cancel_iff] at hcount
  show kept.armedCount token + kept.poll.count token + kept.queueCount token
    + (kept.setWorker worker next).workerCount token = kept.openCount token
  rw [hcount, hsame.openCount, ← hplaces]
  exact hsame.places token

/-- A worker hands its connection back. -/
theorem Custody.of_worker_handBack (service : Service τ) {worker : Nat} {now : Worker τ} (h : Custody r)
    (hworker : r.workers[worker]? = some now) (hnow : now.token? = some token) (ok : Bool) :
    Custody ((r.handBack service token ok).setWorker worker .idle) := by
  obtain ⟨hqueue, hworkers, hpoll, hlife⟩ := handBack_frame service token ok r
  have hstopped : now.hasStopped = false := by
    cases now with
    | stopped => cases hnow
    | _ => rfl
  -- what the worker had in hand is armed or gone, and every other count is as it was
  refine h.of_worker hworker hstopped hlife fun other hplaces => ?_
  have hcount := workerCount_setWorker (r := r.handBack service token ok) (hworkers ▸ hworker) .idle other
  have hnowCount : (if now.holds other then 1 else 0) = if token = other then 1 else 0 := by
    rw [Worker.holds, hnow]
    simp
  have hidleCount : (if (Worker.idle : Worker τ).holds other then 1 else 0) = 0 := rfl
  have hworkerCount : (r.handBack service token ok).workerCount other = r.workerCount other := by
    rw [workerCount, hworkers, workerCount]
  have hqueueCount : (r.handBack service token ok).queueCount other = r.queueCount other := by
    rw [queueCount, hqueue, queueCount]
  rw [hnowCount, hidleCount, hworkerCount] at hcount
  show (r.handBack service token ok).armedCount other + (r.handBack service token ok).poll.count other
    + (r.handBack service token ok).queueCount other
    + ((r.handBack service token ok).setWorker worker .idle).workerCount other
    = (r.handBack service token ok).openCount other
  rw [hpoll, hqueueCount, Nat.add_assoc, Nat.add_assoc]
  refine armedCount_handBack ?_
  rw [← hplaces, places]
  omega

/-- A worker finds that it is to stop. -/
theorem Custody.of_pop_stop {worker : Nat} {queue : Queue} (h : Custody r)
    (hworker : r.workers[worker]? = some .idle) (hwaiting : r.queue.waiting = .stop :: queue.waiting) :
    Custody ({ r with queue }.setWorker worker .stopped) := by
  refine h.of_worker hworker rfl rfl fun token hplaces => ?_
  have hcount : ({ r with queue }.setWorker worker .stopped).workerCount token = r.workerCount token :=
    workerCount_setWorker (r := { r with queue }) hworker .stopped token
  rw [places, queueCount, hwaiting, List.count_cons_of_ne (by simp)] at hplaces
  show r.armedCount token + r.poll.count token + queue.waiting.count (.connection token)
    + ({ r with queue }.setWorker worker .stopped).workerCount token = r.openCount token
  rw [hcount]
  exact hplaces

/-- A worker takes a connection out of the queue; it is open, since what is queued is. -/
theorem Custody.of_pop_connection {worker : Nat} {queue : Queue} (h : Custody r)
    (hworker : r.workers[worker]? = some .idle) (hwaiting : r.queue.waiting = .connection token :: queue.waiting) :
    Custody ({ r with queue }.setWorker worker
      (if (r.connection? token).isSome then .checking token else .idle)) := by
  have hopen : (r.connection? token).isSome := by
    have hplaces := h.served (h.hasThreads_of_worker hworker rfl) token
    rw [places, queueCount, hwaiting, List.count_cons_self, openCount] at hplaces
    split at hplaces
    · assumption
    · omega
  rw [if_pos hopen]
  -- one less in the queue and one more in hand
  refine h.of_worker hworker rfl rfl fun other hplaces => ?_
  have hcount := workerCount_setWorker (r := { r with queue }) hworker (.checking token) other
  have hholds : (if (Worker.checking token : Worker τ).holds other then 1 else 0)
      = if token = other then 1 else 0 := by
    rw [Worker.holds, Worker.token?]
    simp
  have hidle : (if (Worker.idle : Worker τ).holds other then 1 else 0) = 0 := rfl
  have htaken : (Ticket.connection token :: queue.waiting).count (.connection other)
      = queue.waiting.count (.connection other) + if token = other then 1 else 0 := by
    rw [← List.singleton_append, List.count_append, count_connection_singleton, Nat.add_comm]
  rw [hholds, hidle, Nat.add_zero] at hcount
  rw [places, queueCount, hwaiting, htaken] at hplaces
  show r.armedCount other + r.poll.count other + queue.waiting.count (.connection other)
    + ({ r with queue }.setWorker worker (.checking token)).workerCount other = r.openCount other
  rw [hcount, ← hplaces]
  show _ + (r.workerCount other + _) = _
  omega

/-- A worker takes a connection out of the queue and gives it back in the end. -/
theorem Custody.workerSteps (h : Custody r) (hsteps : WorkerSteps service r move r') : Custody r' := by
  cases hsteps with
  | popStop hworker hpop => exact h.of_pop_stop hworker (Queue.pop?_eq_some_iff.mp hpop).1
  | popConnection hworker hpop => exact h.of_pop_connection hworker (Queue.pop?_eq_some_iff.mp hpop).1
  | check hworker =>
    refine h.of_worker_keeps hworker rfl ?_ (SameTold.refl r).toSameCustody
    split <;> rfl
  | readChunk answers hworker hconn hcan hsocket =>
    exact h.of_worker_keeps hworker rfl rfl ⟨fun _ => rfl, fun _ => rfl, rfl, rfl, rfl, rfl⟩
  | readOther answers hworker hconn hcan hnext =>
    refine h.of_worker_keeps hworker rfl ?_ (SameTold.refl r).toSameCustody
    rcases hnext with ⟨-, rfl⟩ | ⟨-, rfl⟩ | ⟨-, rfl⟩ | ⟨-, rfl⟩
    all_goals rfl
  | turn hworker hgoes =>
    exact h.of_worker_keeps hworker rfl rfl ⟨fun _ => rfl, fun _ => rfl, rfl, rfl, rfl, rfl⟩
  | @conclude worker token reaction conn hworker hconn =>
    refine h.of_worker_keeps hworker rfl ?_ (sameTold_conclude token conn reaction r).toSameCustody
    split <;> rfl
  -- the token stays with the worker until it is handed back
  | rearmFailed hworker => exact h.of_worker_keeps hworker rfl rfl (SameTold.refl r).toSameCustody
  | handBack ok hworker =>
    rcases hworker with ⟨-, -, hworker⟩ | ⟨-, -, hworker⟩
    · exact h.of_worker_handBack service hworker rfl ok
    · exact h.of_worker_handBack service hworker rfl ok

/-! ## Steps of a shutdown and of the surroundings -/

/-- With no threads left, a connection is torn down out of whatever place it is in. -/
theorem Custody.of_settled_tearDown (h : Custody r) (hthreads : r.lifecycle.hasThreads = false) :
    Custody (r.tearDown service token) := by
  obtain ⟨hleft, hplaces⟩ := h.settled hthreads
  refine .of_settled (by rw [tearDown_lifecycle, hthreads]) ?_ fun other hopen => ?_
  · rw [threadsLeft, tearDown_poll, tearDown_workers]
    exact hleft
  · rw [connection?_tearDown] at hopen
    split at hopen
    · cases hopen
    · next hne =>
      have hone := hplaces other hopen
      rw [places, queueCount, workerCount] at hone ⊢
      rw [armedCount_tearDown, if_neg hne, tearDown_poll, tearDown_queue, tearDown_workers]
      exact hone

/-- A shutdown closes what it finds when the threads have stopped, and moves nothing before. -/
theorem Custody.shutdownSteps (h : Custody r) (hsteps : ShutdownSteps service r move r') : Custody r' := by
  cases hsteps with
  | shutDown hlife => exact .of_served rfl (h.served (by rw [hlife]; rfl))
  | shutDownAgain hlife => exact h
  | pushStops hlife =>
    refine .of_served rfl fun token => ?_
    have hplaces := h.served (by rw [hlife]; rfl) token
    rw [places, queueCount] at hplaces
    show r.armedCount token + r.poll.count token
      + (r.queue.waiting ++ List.replicate r.workers.size Ticket.stop).count (.connection token)
      + r.workerCount token = r.openCount token
    rw [List.count_append, List.count_replicate, if_neg (by simp), Nat.add_zero]
    exact hplaces
  | join hlife hleft =>
    -- of the count only the places of open connections are needed from here on
    refine .of_settled rfl hleft fun token hopen => ?_
    have hplaces := h.served (by rw [hlife]; rfl) token
    rw [openCount, if_pos (show (r.connection? token).isSome from hopen)] at hplaces
    exact hplaces
  | closeNext hlife hconnections => exact h.of_settled_tearDown (by rw [hlife]; rfl)
  | finish hlife hconnections =>
    have hsame := sameTold_closeSockets r.backlog r
    have hclosed := (h.of_same hsame.toSameCustody).settled (by rw [hsame.lifecycle, hlife]; rfl)
    exact .of_settled rfl hclosed.1 hclosed.2

theorem Custody.outerSteps (h : Custody r) (hsteps : OuterSteps r move r') : Custody r' := by
  cases hsteps with
  | dial hlife => exact h.of_same ⟨fun _ => rfl, fun _ => rfl, rfl, rfl, rfl, rfl⟩
  | sends socket bytes hopen => exact h.of_same (sameTold_modifySocket socket _ r).toSameCustody
  | ends socket hsocket => exact h.of_same (sameTold_modifySocket socket _ r).toSameCustody
  | @disconnect token conn hconn => exact h.of_same (sameTold_close token conn r).toSameCustody

/-- Every step keeps custody, if the next connection gets a token that no open one has. -/
theorem Custody.step (h : Custody r) (hfresh : r.backlog ≠ [] → r.connection? r.nextToken = none)
    (hstep : r.step? service move = some r') : Custody r' := by
  cases step?_steps hstep with
  | outer hsteps => exact h.outerSteps hsteps
  | poll hsteps => exact h.pollSteps hfresh hsteps
  | worker hsteps => exact h.workerSteps hsteps
  | shutdown hsteps => exact h.shutdownSteps hsteps

/-- A reactor that has just been started has no connections. -/
theorem custody_start (config : Config) (state : τ) : Custody (start config state) := by
  refine .of_served rfl fun token => ?_
  have hworkers : (start config state).workerCount token = 0 :=
    Array.countP_eq_zero.mpr fun worker hworker => by
      rw [(Array.mem_replicate.mp hworker).2]
      exact Bool.false_ne_true
  rw [places, hworkers]
  rfl

end Reactor

end EventBus
